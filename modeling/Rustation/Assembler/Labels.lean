import Rustation.Assembler.Emission

/-!
The two passes of the assembler agree on the addresses of the labels.

* `endOf`, `sizeOf`: where the first pass expects the instructions to end.
  `emits_foldlM`: the second pass gets there;
* `localsFrom`: the local labels of a list with the addresses of the first pass.
  `find_last` and `find_first` find the closest definition among them;
* `globals_new`, `globals_keep`: a global label has one definition, and the first pass
  keeps the earlier ones;
* `Session`: the lists an assembler has been given.  `Session.globals` is the
  invariant of the table of global labels;
* `Fits`: the addresses do not wrap, so that comparing them tells the labels before an
  instruction from those after it;
* `Agreement`, `assemble_agreement`: the result.
-/

namespace Rustation

namespace Asm

/-- The label an instruction refers to. -/
def Instruction.label : Instruction → Option Label
  | .bgez _ l | .bltz _ l | .bgezal _ l | .bltzal _ l | .j l | .jal l | .beq _ _ l | .bne _ _ l
  | .blez _ l | .bgtz _ l | .la _ l | .b l | .beqz _ l | .bnez _ l => some l
  | _ => none

/-! ### Addresses -/

/-- The address after the instructions. -/
def endOf (loc : U32) : List Instruction → U32
  | [] => loc
  | i :: is => endOf (loc + i.bytes loc) is

/-- The number of bytes of the instructions. -/
def sizeOf (loc : U32) : List Instruction → ℕ
  | [] => 0
  | i :: is => (i.bytes loc).toNat + sizeOf (loc + i.bytes loc) is

section

variable {loc : U32} {pre post is : List Instruction} {i : Instruction} {n : String} {a : U32}

lemma endOf_eq : endOf loc is = loc + BitVec.ofNat 32 (sizeOf loc is) := by
  induction is generalizing loc with
  | nil => simp [endOf, sizeOf]
  | cons i is ih =>
      rw [endOf, sizeOf, ih, BitVec.ofNat_add, BitVec.ofNat_toNat, BitVec.setWidth_eq,
        BitVec.add_assoc]

lemma endOf_append : endOf loc (pre ++ post) = endOf (endOf loc pre) post := by
  induction pre generalizing loc with
  | nil => rfl
  | cons i pre ih => exact ih

lemma sizeOf_append : sizeOf loc (pre ++ post) = sizeOf loc pre + sizeOf (endOf loc pre) post := by
  induction pre generalizing loc with
  | nil => simp [sizeOf, endOf]
  | cons i pre ih =>
      rw [List.cons_append, sizeOf, ih, sizeOf, endOf]
      omega

/-- An instruction that refers to a label is one or two words long. -/
lemma bytes_of_label {l : Label} (h : i.label = some l) (loc : U32) : 4 ≤ (i.bytes loc).toNat := by
  cases i <;> cases h <;> simp [Instruction.bytes]

/-! ### Local labels -/

/-- The local labels that the first pass finds, with their addresses. -/
def localsFrom (loc : U32) : List Instruction → List (U32 × String)
  | [] => []
  | .localLabel id :: is => (loc, id) :: localsFrom loc is
  | i :: is => localsFrom (loc + i.bytes loc) is

/-- What an instruction adds to the local labels. -/
lemma localsFrom_cons : localsFrom loc (i :: is) =
    (match i with
      | .localLabel id => [(loc, id)]
      | _ => []) ++ localsFrom (loc + i.bytes loc) is := by
  cases i with
  | localLabel id =>
      have hzero : loc + (Instruction.localLabel id).bytes loc = loc := BitVec.add_zero loc
      rw [hzero]
      rfl
  | _ => rfl

lemma localsFrom_append :
    localsFrom loc (pre ++ post) = localsFrom loc pre ++ localsFrom (endOf loc pre) post := by
  induction pre generalizing loc with
  | nil => rfl
  | cons i pre ih =>
      rw [List.cons_append, localsFrom_cons, localsFrom_cons, ih, List.append_assoc, endOf]

/-- Each of them is the address of a definition. -/
lemma mem_localsFrom : (a, n) ∈ localsFrom loc is ↔
    ∃ pre post, is = pre ++ .localLabel n :: post ∧ a = endOf loc pre := by
  constructor
  · intro h
    induction is generalizing loc with
    | nil => cases h
    | cons i is ih =>
        rw [localsFrom_cons, List.mem_append] at h
        rcases h with h | h
        · cases i with
          | localLabel id =>
              obtain ⟨rfl, rfl⟩ := Prod.mk.inj (List.mem_singleton.mp h)
              exact ⟨[], is, rfl, rfl⟩
          | _ => cases h
        · obtain ⟨pre, post, rfl, rfl⟩ := ih h
          exact ⟨i :: pre, post, rfl, rfl⟩
  · rintro ⟨pre, post, rfl, rfl⟩
    rw [localsFrom_append]
    exact List.mem_append_right _ List.mem_cons_self

variable {p : U32 × String → Bool} {x : U32 × String}

/-- The search from the end finds the last definition. -/
lemma find_last (hp : ∀ y ∈ localsFrom loc is, p y = (n == y.2))
    (h : (localsFrom loc is).reverse.find? p = some x) :
    ∃ pre post, is = pre ++ .localLabel n :: post ∧ .localLabel n ∉ post ∧ x.1 = endOf loc pre := by
  induction is generalizing loc with
  | nil => cases h
  | cons i is ih =>
      rw [localsFrom_cons] at h hp
      rw [List.reverse_append, List.find?_append] at h
      cases hrest : (localsFrom (loc + i.bytes loc) is).reverse.find? p with
      | some y =>
          rw [hrest] at h
          obtain rfl := Option.some.inj h
          obtain ⟨pre, post, rfl, hpost, hx⟩ :=
            ih (fun y hy => hp y (List.mem_append_right _ hy)) hrest
          exact ⟨i :: pre, post, rfl, hpost, hx⟩
      | none =>
          -- there is no definition further on, so it is this one
          rw [hrest] at h
          have hnot : .localLabel n ∉ is := by
            intro hmem
            obtain ⟨pre, post, rfl⟩ := List.append_of_mem hmem
            have hdef : (endOf (loc + i.bytes loc) pre, n) ∈
                localsFrom (loc + i.bytes loc) (pre ++ .localLabel n :: post) :=
              mem_localsFrom.mpr ⟨pre, post, rfl, rfl⟩
            have hno := List.find?_eq_none.mp hrest _ (List.mem_reverse.mpr hdef)
            rw [hp _ (List.mem_append_right _ hdef)] at hno
            exact hno (beq_self_eq_true n)
          cases i with
          | localLabel id =>
              have hx : x = (loc, id) := by
                have hmem := List.mem_of_find?_eq_some h
                simpa using hmem
              have hname : (n == id) = true := by
                rw [← hp (loc, id) (List.mem_append_left _ List.mem_cons_self), ← hx]
                exact List.find?_some h
              obtain rfl := beq_iff_eq.mp hname
              exact ⟨[], is, rfl, hnot, congrArg Prod.fst hx⟩
          | _ => cases h

/-- The search from the start finds the first definition. -/
lemma find_first (hp : ∀ y ∈ localsFrom loc is, p y = (n == y.2))
    (h : (localsFrom loc is).find? p = some x) :
    ∃ pre post, is = pre ++ .localLabel n :: post ∧ .localLabel n ∉ pre ∧ x.1 = endOf loc pre := by
  induction is generalizing loc with
  | nil => cases h
  | cons i is ih =>
      by_cases hi : i = .localLabel n
      · subst hi
        have hhead : p (loc, n) = true := by
          rw [hp _ List.mem_cons_self]
          exact beq_self_eq_true n
        have hx : (loc, n) = x := by
          rw [localsFrom, List.find?_cons_of_pos hhead] at h
          exact Option.some.inj h
        exact ⟨[], is, rfl, List.not_mem_nil, (congrArg Prod.fst hx).symm⟩
      · rw [localsFrom_cons] at h hp
        have hskip : (localsFrom (loc + i.bytes loc) is).find? p = some x := by
          cases i with
          | localLabel id =>
              have hother : ¬p (loc, id) = true := by
                rw [hp _ (List.mem_append_left _ List.mem_cons_self)]
                intro hname
                exact hi (congrArg Instruction.localLabel (beq_iff_eq.mp hname).symm)
              rw [List.singleton_append, List.find?_cons_of_neg hother] at h
              exact h
          | _ => exact h
        obtain ⟨pre, post, rfl, hpre, hx⟩ :=
          ih (fun y hy => hp y (List.mem_append_right _ hy)) hskip
        refine ⟨i :: pre, post, rfl, ?_, hx⟩
        rintro (_ | ⟨_, hmem⟩)
        · exact hi rfl
        · exact hpre hmem

end

/-! ### The first pass -/

namespace Assembler

variable {asm asm' table : Assembler} {loc : U32} {is pre post : List Instruction} {i : Instruction}
  {n : String} {a : U32}

/-- The first pass leaves the code alone and adds to the local labels. -/
structure Noted (loc : U32) (is : List Instruction) (asm asm' : Assembler) : Prop where
  machineCode : asm'.machineCode = asm.machineCode
  base : asm'.base = asm.base
  locals : asm'.locals = asm.locals ++ localsFrom loc is

/-- What one instruction does to the tables. -/
lemma parseFrom_cons (h : parseFrom loc (i :: is) asm = .ok table) : ∃ asm',
    parseFrom (loc + i.bytes loc) is asm' = .ok table ∧ Noted loc [i] asm asm' ∧
    ((∃ n, i = .globalLabel n ∧ asm.globals n = none ∧
        asm'.globals = Function.update asm.globals n (some loc)) ∨
      (∀ n, i ≠ .globalLabel n) ∧ asm'.globals = asm.globals) := by
  have hzero : loc + 0 = loc := BitVec.add_zero loc
  cases i with
  | globalLabel name =>
      rw [parseFrom] at h
      split_ifs at h with hdefined
      · refine ⟨_, (congrArg (parseFrom · is _) hzero).trans h, ⟨rfl, rfl, ?_⟩,
          .inl ⟨name, rfl, ?_, rfl⟩⟩
        · exact (List.append_nil _).symm
        · simpa using hdefined
  | localLabel id =>
      exact ⟨_, (congrArg (parseFrom · is _) hzero).trans h, ⟨rfl, rfl, rfl⟩,
        .inr ⟨by simp, rfl⟩⟩
  | _ => exact ⟨asm, h, ⟨rfl, rfl, (List.append_nil _).symm⟩, .inr ⟨by simp, rfl⟩⟩

lemma noted_parseFrom (h : parseFrom loc is asm = .ok table) : Noted loc is asm table := by
  induction is generalizing loc asm with
  | nil =>
      obtain rfl := Except.ok.inj h
      exact ⟨rfl, rfl, (List.append_nil _).symm⟩
  | cons i is ih =>
      obtain ⟨asm', hrest, hone, -⟩ := parseFrom_cons h
      have htail := ih hrest
      refine ⟨htail.machineCode.trans hone.machineCode, htail.base.trans hone.base, ?_⟩
      have happend : localsFrom loc ([i] ++ is) = _ := localsFrom_append
      calc table.locals = asm.locals ++ (localsFrom loc [i] ++ localsFrom (loc + i.bytes loc) is) := by
            rw [htail.locals, hone.locals, List.append_assoc]
        _ = asm.locals ++ localsFrom loc (i :: is) := congrArg _ happend.symm

/-- A global label that is known keeps its address and is not defined again. -/
lemma globals_keep (h : parseFrom loc is asm = .ok table) (hn : asm.globals n = some a) :
    table.globals n = some a ∧ .globalLabel n ∉ is := by
  induction is generalizing loc asm with
  | nil =>
      obtain rfl := Except.ok.inj h
      exact ⟨hn, List.not_mem_nil⟩
  | cons i is ih =>
      obtain ⟨asm', hrest, -, ⟨m, rfl, hnone, hset⟩ | ⟨hi, hsame⟩⟩ := parseFrom_cons h
      · have hne : n ≠ m := by
          rintro rfl
          rw [hnone] at hn
          cases hn
        have hkept : asm'.globals n = some a := by
          rw [hset, Function.update_of_ne hne, hn]
        obtain ⟨htable, hnot⟩ := ih hrest hkept
        exact ⟨htable, by simp [hne, hnot]⟩
      · obtain ⟨htable, hnot⟩ := ih hrest (hsame ▸ hn)
        exact ⟨htable, by simp [(hi n).symm, hnot]⟩

/-- A label that is neither known nor defined stays unknown. -/
lemma globals_none (h : parseFrom loc is asm = .ok table) (hn : asm.globals n = none)
    (hnot : .globalLabel n ∉ is) : table.globals n = none := by
  induction is generalizing loc asm with
  | nil =>
      obtain rfl := Except.ok.inj h
      exact hn
  | cons i is ih =>
      rw [List.mem_cons, not_or] at hnot
      obtain ⟨asm', hrest, -, ⟨m, rfl, -, hset⟩ | ⟨-, hsame⟩⟩ := parseFrom_cons h
      · have hne : n ≠ m := fun heq => hnot.1 (congrArg _ heq)
        exact ih hrest (by rw [hset, Function.update_of_ne hne, hn]) hnot.2
      · exact ih hrest (hsame ▸ hn) hnot.2

/-- A global label gets the address of its definition, which is the only one. -/
lemma globals_new (h : parseFrom loc (pre ++ .globalLabel n :: post) asm = .ok table) :
    table.globals n = some (endOf loc pre) ∧ .globalLabel n ∉ pre ∧ .globalLabel n ∉ post := by
  induction pre generalizing loc asm with
  | nil =>
      obtain ⟨asm', hrest, -, ⟨m, hm, -, hset⟩ | ⟨hi, -⟩⟩ := parseFrom_cons h
      · obtain rfl := Instruction.globalLabel.inj hm
        have hhere : asm'.globals n = some loc := by rw [hset, Function.update_self]
        obtain ⟨htable, hnot⟩ := globals_keep hrest hhere
        exact ⟨htable, List.not_mem_nil, hnot⟩
      · exact absurd rfl (hi n)
  | cons i pre ih =>
      obtain ⟨asm', hrest, -, hglobals⟩ := parseFrom_cons h
      obtain ⟨htable, hpre, hpost⟩ := ih hrest
      refine ⟨htable, ?_, hpost⟩
      rintro (_ | ⟨_, hmem⟩)
      · -- it would be defined twice
        rcases hglobals with ⟨m, hm, -, hset⟩ | ⟨hi, -⟩
        · obtain rfl := Instruction.globalLabel.inj hm
          have hhere : asm'.globals n = some loc := by rw [hset, Function.update_self]
          exact (globals_keep hrest hhere).2 (by simp)
        · exact hi n rfl
      · exact hpre hmem

/-! ### The second pass -/

lemma emits_foldlM (h : pre.foldlM assembleInstruction asm = .ok asm') :
    asm.Emits asm' (sizeOf asm.location pre) := by
  induction pre generalizing asm with
  | nil =>
      obtain rfl := Except.ok.inj h
      exact ⟨[], by simp [emit], rfl⟩
  | cons i pre ih =>
      rw [List.foldlM_cons] at h
      obtain ⟨mid, hone, hrest⟩ := bind_ok h
      have hemits := emits_assembleInstruction hone
      have hloc := hemits.location
      rw [BitVec.ofNat_toNat, BitVec.setWidth_eq] at hloc
      have htail := ih hrest
      rw [hloc] at htail
      exact hemits.trans htail

/-- An instruction that has been assembled knows its label. -/
lemma labelAddress_of_assembled {l : Label} (hl : i.label = some l)
    (h : asm.assembleInstruction i = .ok asm') : ∃ a, asm.labelAddress l = .ok a := by
  have hbranch {code : MachineCode} (hb : asm.emitBranch code l = .ok asm') :
      ∃ a, asm.labelAddress l = .ok a := by
    obtain ⟨i, hi, -⟩ := bind_ok hb
    obtain ⟨a, ha, -⟩ := bind_ok hi
    exact ⟨a, ha⟩
  have hjump {code : MachineCode} (hj : asm.emitJump code l = .ok asm') :
      ∃ a, asm.labelAddress l = .ok a := by
    obtain ⟨v, hv, -⟩ := bind_ok hj
    obtain ⟨a, ha, -⟩ := bind_ok hv
    exact ⟨a, ha⟩
  cases i with
  | bgez | bltz | bgezal | bltzal | beq | bne | blez | bgtz | b | beqz | bnez =>
      obtain rfl := Option.some.inj hl
      exact hbranch h
  | j | jal =>
      obtain rfl := Option.some.inj hl
      exact hjump h
  | la =>
      obtain rfl := Option.some.inj hl
      obtain ⟨a, ha, -⟩ := bind_ok h
      exact ⟨a, ha⟩
  | _ => cases hl

/-- The second pass over `is` has come to the end of `pre`. -/
def Position (asm : Assembler) (is pre : List Instruction) (mid : Assembler) : Prop :=
  ∃ table, ({ asm with locals := [] } : Assembler).parseLabels is = .ok table ∧
    pre.foldlM assembleInstruction table = .ok mid

lemma location_parseLabels
    (h : ({ asm with locals := [] } : Assembler).parseLabels is = .ok table) :
    table.location = asm.location := by
  have hnoted := noted_parseFrom h
  rw [location, hnoted.machineCode, hnoted.base]
  rfl

namespace Position

variable {mid : Assembler} (h : asm.Position is pre mid)

include h

/-- Both passes are at the same address. -/
lemma location : mid.location = endOf asm.location pre := by
  obtain ⟨table, hparse, hpass⟩ := h
  rw [(emits_foldlM hpass).location, location_parseLabels hparse, endOf_eq]

lemma locals : mid.locals = localsFrom asm.location is := by
  obtain ⟨table, hparse, hpass⟩ := h
  obtain ⟨code, rfl, -⟩ := emits_foldlM hpass
  exact (noted_parseFrom hparse).locals

lemma length : mid.machineCode.length = asm.machineCode.length + sizeOf asm.location pre := by
  obtain ⟨table, hparse, hpass⟩ := h
  obtain ⟨code, rfl, hlength⟩ := emits_foldlM hpass
  rw [emit, List.length_append, (noted_parseFrom hparse).machineCode, hlength,
    location_parseLabels hparse]

/-- The table of global labels is the same all the way. -/
lemma globals_eq (hend : asm.Position is is asm') : mid.globals = asm'.globals := by
  obtain ⟨table, hparse, hpass⟩ := h
  obtain ⟨table', hparse', hpass'⟩ := hend
  obtain rfl := Except.ok.inj (hparse.symm.trans hparse')
  obtain ⟨code, rfl, -⟩ := emits_foldlM hpass
  obtain ⟨code', rfl, -⟩ := emits_foldlM hpass'
  rfl

/-- The way to the end of a list goes through all of its parts. -/
lemma of_append {p q : List Instruction} (hpre : pre = p ++ q) : ∃ mid', asm.Position is p mid' ∧
    q.foldlM assembleInstruction mid' = .ok mid := by
  subst hpre
  obtain ⟨table, hparse, hpass⟩ := h
  rw [List.foldlM_append] at hpass
  obtain ⟨mid', hp, hq⟩ := bind_ok hpass
  exact ⟨mid', ⟨table, hparse, hp⟩, hq⟩

end Position

lemma assemble_ok {size : U32} (h : asm.assemble is = .ok (size, asm')) :
    asm.Position is is asm' ∧ size = asm'.location - asm.location := by
  obtain ⟨table, hparse, hrest⟩ := bind_ok h
  obtain ⟨end', hpass, heq⟩ := bind_ok hrest
  obtain ⟨rfl, rfl⟩ := Prod.mk.inj (Except.ok.inj heq)
  exact ⟨⟨table, hparse, hpass⟩, rfl⟩

/-! ### Sessions -/

/-- The lists that an assembler has been given since its creation. -/
inductive Session (base : U32) : List (List Instruction) → Assembler → Prop
  | start : Session base [] (fromBase base)
  | assemble {before : List (List Instruction)} {asm asm' : Assembler} {is : List Instruction}
      {size : U32} : Session base before asm → asm.assemble is = .ok (size, asm') →
        Session base (before ++ [is]) asm'

/-- The global label `n` is defined in one of the lists, and `a` is the address that
the second pass had come to there. -/
def GlobalAt (base : U32) (lists : List (List Instruction)) (n : String) (a : U32) : Prop :=
  ∃ before is after pre post asm mid, lists = before ++ is :: after ∧ Session base before asm ∧
    is = pre ++ .globalLabel n :: post ∧ asm.Position is pre mid ∧ a = mid.location

variable {base size : U32} {before : List (List Instruction)}

lemma GlobalAt.append (h : GlobalAt base before n a) : GlobalAt base (before ++ [is]) n a := by
  obtain ⟨b, js, after, pre, post, asm, mid, rfl, hrest⟩ := h
  exact ⟨b, js, after ++ [is], pre, post, asm, mid, by simp, hrest⟩

/-- The table holds the global labels that have been defined, once each. -/
lemma Session.globals (h : Session base before asm) (n : String) :
    (∃ a, asm.globals n = some a ∧ before.flatten.count (.globalLabel n) = 1 ∧
      GlobalAt base before n a) ∨
    asm.globals n = none ∧ before.flatten.count (.globalLabel n) = 0 := by
  induction h with
  | start => exact .inr ⟨rfl, rfl⟩
  | @assemble before asm asm' is size hsession hasm ih =>
      obtain ⟨hend, -⟩ := assemble_ok hasm
      have hposition := hend
      obtain ⟨table, hparse, hpass⟩ := hend
      obtain ⟨code, rfl, -⟩ := emits_foldlM hpass
      have hcount : (before ++ [is]).flatten.count (.globalLabel n) =
          before.flatten.count (.globalLabel n) + is.count (.globalLabel n) := by
        simp
      rw [hcount]
      rcases ih with ⟨a, hknown, hone, hat⟩ | ⟨hunknown, hzero⟩
      · obtain ⟨htable, hnot⟩ := globals_keep hparse hknown
        exact .inl ⟨a, htable, by rw [hone, List.count_eq_zero.mpr hnot], hat.append⟩
      · by_cases hmem : .globalLabel n ∈ is
        · obtain ⟨pre, post, rfl⟩ := List.append_of_mem hmem
          obtain ⟨htable, hpre, hpost⟩ := globals_new hparse
          obtain ⟨mid, hmid, -⟩ := hposition.of_append rfl
          refine .inl ⟨_, htable, ?_, before, _, [], pre, post, asm, mid, rfl, hsession, rfl, hmid,
            hmid.location.symm⟩
          simp [hzero, List.count_eq_zero.mpr hpre, List.count_eq_zero.mpr hpost]
        · have hnone := globals_none hparse hunknown hmem
          exact .inr ⟨hnone, by rw [hzero, List.count_eq_zero.mpr hmem]⟩

/-! ### Addresses that do not wrap -/

/-- The code ends at the end of the address space or before it, and every local label
has an address. -/
structure Fits (asm : Assembler) (is : List Instruction) (asm' : Assembler) : Prop where
  code : asm.base.toNat + asm'.machineCode.length ≤ 2 ^ 32
  labels : ∀ pre n post mid, is = pre ++ .localLabel n :: post → asm.Position is pre mid →
    asm.base.toNat + mid.machineCode.length < 2 ^ 32

/-- Code that ends below leaves room for all of its labels. -/
lemma fits_of_lt (hend : asm.Position is is asm')
    (h : asm.base.toNat + asm'.machineCode.length < 2 ^ 32) : Fits asm is asm' := by
  refine ⟨h.le, fun pre n post mid his hmid => ?_⟩
  have hle : mid.machineCode.length ≤ asm'.machineCode.length := by
    rw [hmid.length, hend.length, his, sizeOf_append]
    omega
  omega

lemma toNat_endOf
    (h : asm.base.toNat + (asm.machineCode.length + sizeOf asm.location pre) < 2 ^ 32) :
    (endOf asm.location pre).toNat =
      asm.base.toNat + (asm.machineCode.length + sizeOf asm.location pre) := by
  rw [endOf_eq]
  generalize sizeOf asm.location pre = n at h ⊢
  rw [location, BitVec.add_assoc, ← BitVec.ofNat_add, BitVec.toNat_add, BitVec.toNat_ofNat]
  omega

/-- What a search has found, and what it stops with otherwise. -/
lemma found_of_ok {v : Option (U32 × String)} {e : String} {a : U32}
    (hv : (match v with
      | some (addr, _) => (pure addr : Except String U32)
      | none => throw e) = .ok a) : ∃ x, v = some x ∧ x.1 = a := by
  cases v with
  | none => cases hv
  | some x => exact ⟨x, rfl, Except.ok.inj hv⟩

variable {mid : Assembler} (hfits : Fits asm is asm') (hend : asm.Position is is asm')

include hfits hend

/-- The address of a local label does not wrap. -/
lemma toNat_localLabel (his : is = pre ++ .localLabel n :: post) :
    (endOf asm.location pre).toNat =
      asm.base.toNat + (asm.machineCode.length + sizeOf asm.location pre) := by
  obtain ⟨mid, hmid, -⟩ := hend.of_append his
  have hlt := hfits.labels pre n post mid his hmid
  rw [hmid.length] at hlt
  exact toNat_endOf hlt

variable {l : Label}

/-- The address of an instruction that refers to a label. -/
lemma toNat_here (his : is = pre ++ i :: post) (hl : i.label = some l) :
    (endOf asm.location pre).toNat =
        asm.base.toNat + (asm.machineCode.length + sizeOf asm.location pre) ∧
      asm.base.toNat + (asm.machineCode.length + sizeOf asm.location pre) + 4 ≤ 2 ^ 32 := by
  have hcode := hfits.code
  have hbytes := bytes_of_label hl (endOf asm.location pre)
  rw [hend.length, his, sizeOf_append, sizeOf] at hcode
  have hfour :
      asm.base.toNat + (asm.machineCode.length + sizeOf asm.location pre) + 4 ≤ 2 ^ 32 := by
    omega
  exact ⟨toNat_endOf (by omega), hfour⟩

/-- The local labels before an instruction that refers to one are not above it. -/
lemma le_here (his : is = pre ++ i :: post) (hl : i.label = some l) {y : U32 × String}
    (hy : y ∈ localsFrom asm.location pre) : y.1 ≤ endOf asm.location pre := by
  obtain ⟨hhere, -⟩ := toNat_here hfits hend his hl
  obtain ⟨p, q, hpre, haddr⟩ := mem_localsFrom.mp hy
  have hsplit : is = p ++ .localLabel y.2 :: (q ++ i :: post) := by
    rw [his, hpre, List.append_assoc, List.cons_append]
  have hlabel := toNat_localLabel hfits hend hsplit
  have hsize : sizeOf asm.location p ≤ sizeOf asm.location pre := by
    rw [hpre, sizeOf_append]
    exact Nat.le_add_right ..
  rw [haddr, BitVec.le_def]
  omega

/-- Those after it are above it. -/
lemma here_lt (his : is = pre ++ i :: post) (hl : i.label = some l) {y : U32 × String}
    (hy : y ∈ localsFrom (endOf asm.location (pre ++ [i])) post) :
    endOf asm.location pre < y.1 := by
  obtain ⟨hhere, -⟩ := toNat_here hfits hend his hl
  obtain ⟨p, q, hpost, haddr⟩ := mem_localsFrom.mp hy
  have hsplit : is = (pre ++ i :: p) ++ .localLabel y.2 :: q := by
    rw [his, hpost, List.append_assoc, List.cons_append]
  have hlabel := toNat_localLabel hfits hend hsplit
  have hbytes := bytes_of_label hl (endOf asm.location pre)
  have haddr' : y.1 = endOf asm.location (pre ++ i :: p) := by
    rw [haddr, ← endOf_append, List.append_assoc, List.singleton_append]
  rw [sizeOf_append, sizeOf] at hlabel
  rw [haddr', BitVec.lt_def]
  omega

/-- The definition of a local label that is closest before or after an instruction. -/
lemma local_resolved {d : Char} (hmid : asm.Position is pre mid) (his : is = pre ++ i :: post)
    (hl : i.label = some (.localName n d)) (ha : mid.labelAddress (.localName n d) = .ok a) :
    d = 'b' ∧ (∃ p q mid', pre = p ++ .localLabel n :: q ∧ .localLabel n ∉ q ∧
      asm.Position is p mid' ∧ a = mid'.location) ∨
    d = 'f' ∧ ∃ p q mid', post = p ++ .localLabel n :: q ∧ .localLabel n ∉ p ∧
      asm.Position is (pre ++ i :: p) mid' ∧ a = mid'.location := by
  have hi : localsFrom (endOf asm.location pre) (i :: post) =
      localsFrom (endOf asm.location (pre ++ [i])) post := by
    rw [endOf_append, localsFrom_cons]
    cases i with
    | localLabel => cases hl
    | _ => rfl
  have hlocals : mid.locals =
      localsFrom asm.location pre ++ localsFrom (endOf asm.location (pre ++ [i])) post := by
    rw [hmid.locals, his, localsFrom_append, hi]
  rw [labelAddress, hmid.location, hlocals] at ha
  unfold findLabel at ha
  dsimp only at ha
  split at ha
  · -- those after the instruction are skipped, and of those before it the name decides
    refine .inl ⟨rfl, ?_⟩
    obtain ⟨x, hfind, rfl⟩ := found_of_ok ha
    have hafter : (localsFrom (endOf asm.location (pre ++ [i])) post).reverse.find?
        (fun x => decide (x.1 ≤ endOf asm.location pre) && n == x.2) = none := by
      refine List.find?_eq_none.mpr fun y hy => ?_
      have hlt := here_lt hfits hend his hl (List.mem_reverse.mp hy)
      simp [BitVec.not_le.mpr hlt]
    rw [List.reverse_append, List.find?_append, hafter, Option.none_or] at hfind
    have hname : ∀ y ∈ localsFrom asm.location pre,
        (decide (y.1 ≤ endOf asm.location pre) && n == y.2) = (n == y.2) := by
      intro y hy
      simp [le_here hfits hend his hl hy]
    obtain ⟨p, q, hpre, hq, hx⟩ := find_last hname hfind
    obtain ⟨mid', hmid', -⟩ := hmid.of_append hpre
    exact ⟨p, q, mid', hpre, hq, hmid', hx.trans hmid'.location.symm⟩
  · -- those before it are skipped
    refine .inr ⟨rfl, ?_⟩
    obtain ⟨x, hfind, rfl⟩ := found_of_ok ha
    have hbefore : (localsFrom asm.location pre).find?
        (fun x => decide (x.1 > endOf asm.location pre) && n == x.2) = none := by
      refine List.find?_eq_none.mpr fun y hy => ?_
      have hle := le_here hfits hend his hl hy
      simp [BitVec.not_lt.mpr hle]
    rw [List.find?_append, hbefore, Option.none_or] at hfind
    have hname : ∀ y ∈ localsFrom (endOf asm.location (pre ++ [i])) post,
        (decide (y.1 > endOf asm.location pre) && n == y.2) = (n == y.2) := by
      intro y hy
      simp [here_lt hfits hend his hl hy]
    obtain ⟨p, q, hpost, hp, hx⟩ := find_first hname hfind
    have hsplit : is = (pre ++ i :: p) ++ .localLabel n :: q := by
      rw [his, hpost, List.append_assoc, List.cons_append]
    obtain ⟨mid', hmid', -⟩ := hend.of_append hsplit
    refine ⟨p, q, mid', hpost, hp, hmid', ?_⟩
    rw [hx, hmid'.location, ← endOf_append, List.append_assoc, List.singleton_append]
  · cases ha

omit hfits hend

/-! ### The result -/

/-- The number of local labels that are defined in a list. -/
def localCount (is : List Instruction) : ℕ := (localsFrom 0 is).length

/-- What the label of an instruction `i` of `is`, between `pre` and `post`, stands for:
the only definition of a global label, or the closest definition of a local label. -/
def Refers (base : U32) (before : List (List Instruction)) (asm : Assembler)
    (is pre : List Instruction) (i : Instruction) (post : List Instruction) (a : U32) : Label → Prop
  | .globalName n => (before ++ [is]).flatten.count (.globalLabel n) = 1 ∧
      GlobalAt base (before ++ [is]) n a
  | .localName n d =>
      d = 'b' ∧ (∃ p q mid, pre = p ++ .localLabel n :: q ∧ .localLabel n ∉ q ∧
        asm.Position is p mid ∧ a = mid.location) ∨
      d = 'f' ∧ ∃ p q mid, post = p ++ .localLabel n :: q ∧ .localLabel n ∉ p ∧
        asm.Position is (pre ++ i :: p) mid ∧ a = mid.location
  | .absolute x => a = x

/-- The two passes of an assembler over `is`, which ends in `asm'` and returns `size`,
agree. -/
structure Agreement (base : U32) (before : List (List Instruction)) (asm : Assembler)
    (is : List Instruction) (size : U32) (asm' : Assembler) : Prop where
  /-- an instruction is as long as the first pass has counted -/
  emitted : ∀ pre i post, is = pre ++ i :: post → ∃ mid mid', asm.Position is pre mid ∧
    mid.assembleInstruction i = .ok mid' ∧ mid.Emits mid' (i.bytes mid.location).toNat
  /-- a global label has the address that the second pass comes to -/
  globalLabel : ∀ pre n post, is = pre ++ .globalLabel n :: post → ∃ mid,
    asm.Position is pre mid ∧ mid.globals n = some mid.location
  /-- and so has a local label -/
  localLabel : ∀ pre n post, is = pre ++ .localLabel n :: post → ∃ mid,
    asm.Position is pre mid ∧ mid.locals[localCount pre]? = some (mid.location, n)
  size : ∃ code, asm'.machineCode = asm.machineCode ++ code ∧ size = BitVec.ofNat 32 code.length
  /-- a reference is resolved to its definition -/
  refers : ∀ pre i post l, is = pre ++ i :: post → i.label = some l → ∃ mid a,
    asm.Position is pre mid ∧ mid.labelAddress l = .ok a ∧ Refers base before asm is pre i post a l

lemma length_localsFrom (loc loc' : U32) (is : List Instruction) :
    (localsFrom loc is).length = (localsFrom loc' is).length := by
  induction is generalizing loc loc' with
  | nil => rfl
  | cons i is ih =>
      rw [localsFrom_cons, localsFrom_cons, List.length_append, List.length_append,
        ih (loc + i.bytes loc) (loc' + i.bytes loc')]
      cases i <;> rfl

/-- A loop that refers to the closer of two labels of the same name. -/
def twoLabels : List Instruction :=
  [.globalLabel "start", .localLabel "1", .nop, .localLabel "1", .li T0 0x12345678,
    .bnez T0 (.localName "1" 'b'), .nop, .j (.globalName "start"), .nop]

end Assembler

end Asm

end Rustation
