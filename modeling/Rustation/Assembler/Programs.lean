import Rustation.Assembler.Decoding
import Rustation.Assembler.Labels

/-!
Programs that the assembler accepts.

* `NoWrap`: the addresses of the code do not wrap;
* `labelAddress_before`, `labelAddress_after`, `labelAddress_global`: what a
  reference to a label that is defined stands for;
* `Mention`: what an instruction says about labels.  The mentions of a program do not
  depend on its registers and values;
* `exists_assemble`: a program whose references are resolved and whose global labels
  are defined once is assembled.
-/

namespace Rustation

namespace Asm

namespace Assembler

variable {asm asm' mid table : Assembler} {is pre post p q : List Instruction} {i : Instruction}
  {n : String} {l : Label}

/-! ### Addresses -/

/-- The code, with that of the instructions added, ends below the end of the address
space. -/
def NoWrap (asm : Assembler) (is : List Instruction) : Prop :=
  asm.base.toNat + (asm.machineCode.length + sizeOf asm.location is) < 2 ^ 32

lemma NoWrap.toNat_endOf (h : asm.NoWrap is) (his : is = pre ++ post) :
    (endOf asm.location pre).toNat =
      asm.base.toNat + (asm.machineCode.length + sizeOf asm.location pre) := by
  refine Assembler.toNat_endOf ?_
  unfold NoWrap at h
  rw [his, sizeOf_append] at h
  omega

/-- The local labels before an instruction are not above it. -/
lemma NoWrap.le_here (h : asm.NoWrap is) (his : is = pre ++ post) {y : U32 × String}
    (hy : y ∈ localsFrom asm.location pre) : y.1 ≤ endOf asm.location pre := by
  obtain ⟨p, q, rfl, haddr⟩ := mem_localsFrom.mp hy
  have hlabel := h.toNat_endOf (his.trans (List.append_assoc ..))
  have hhere := h.toNat_endOf his
  rw [sizeOf_append] at hhere
  rw [haddr, BitVec.le_def]
  omega

/-- Those after an instruction that refers to a label are above it. -/
lemma NoWrap.here_lt (h : asm.NoWrap is) (his : is = pre ++ i :: post) (hl : i.label = some l)
    {y : U32 × String} (hy : y ∈ localsFrom (endOf asm.location (pre ++ [i])) post) :
    endOf asm.location pre < y.1 := by
  obtain ⟨p, q, rfl, haddr⟩ := mem_localsFrom.mp hy
  have hlabel := @NoWrap.toNat_endOf asm is (pre ++ [i] ++ p) (.localLabel y.2 :: q) h
    (by rw [his]; simp)
  have hhere := h.toNat_endOf his
  have hbytes := bytes_of_label hl (endOf asm.location pre)
  rw [sizeOf_append, sizeOf_append, sizeOf, sizeOf] at hlabel
  rw [haddr, ← endOf_append, BitVec.lt_def]
  omega

/-! ### References -/

/-- The local labels, as the second pass sees them from an instruction that refers to
one. -/
lemma Position.locals_split (h : asm.Position is pre mid) (his : is = pre ++ i :: post)
    (hl : i.label = some l) : mid.locals =
      localsFrom asm.location pre ++ localsFrom (endOf asm.location (pre ++ [i])) post := by
  rw [h.locals, his, localsFrom_append, localsFrom_cons, endOf_append]
  cases i with
  | localLabel => cases hl
  | _ => rfl

/-- Labels of another name are passed over. -/
lemma find_localsFrom_none (f : U32 × String → Bool) (loc : U32) (hnot : .localLabel n ∉ q) :
    (localsFrom loc q).find? (fun x => f x && n == x.2) = none := by
  refine List.find?_eq_none.mpr fun y hy => ?_
  obtain ⟨p', q', rfl, -⟩ := mem_localsFrom.mp hy
  have hne : n ≠ y.2 := by
    rintro rfl
    exact hnot (by simp)
  simp [hne]

lemma localsFrom_label (loc : U32) :
    localsFrom loc (p ++ .localLabel n :: q) =
      localsFrom loc p ++ (endOf loc p, n) :: localsFrom (endOf loc p + 0) q := by
  rw [localsFrom_append, localsFrom_cons]
  rfl

/-! What a search has found is the address. -/

lemma labelAddress_back {x : U32 × String}
    (h : asm.locals.reverse.find? (fun x => decide (x.1 ≤ asm.location) && n == x.2) = some x) :
    asm.labelAddress (.localName n 'b') = .ok x.1 := by
  change (pure (asm.locals.reverse.find? fun x => decide (x.1 ≤ asm.location) && n == x.2) >>= _)
    = _
  rw [h]
  rfl

lemma labelAddress_ahead {x : U32 × String}
    (h : asm.locals.find? (fun x => decide (x.1 > asm.location) && n == x.2) = some x) :
    asm.labelAddress (.localName n 'f') = .ok x.1 := by
  change (pure (asm.locals.find? fun x => decide (x.1 > asm.location) && n == x.2) >>= _) = _
  rw [h]
  rfl

lemma labelAddress_named {a : U32} (h : asm.globals n = some a) :
    asm.labelAddress (.globalName n) = .ok a := by
  rw [labelAddress, findLabel, h]
  rfl

section

variable (hwrap : asm.NoWrap is) (hmid : asm.Position is pre mid) (his : is = pre ++ i :: post)
  (hl : i.label = some l)

include hwrap hmid his hl

/-- The last definition before an instruction. -/
lemma labelAddress_before (hpre : pre = p ++ .localLabel n :: q) (hq : .localLabel n ∉ q) :
    mid.labelAddress (.localName n 'b') = .ok (endOf asm.location p) := by
  have hafter : (localsFrom (endOf asm.location (pre ++ [i])) post).reverse.find?
      (fun x => decide (x.1 ≤ endOf asm.location pre) && n == x.2) = none := by
    refine List.find?_eq_none.mpr fun y hy => ?_
    have hlt := hwrap.here_lt his hl (List.mem_reverse.mp hy)
    simp [BitVec.not_le.mpr hlt]
  have hbetween : (localsFrom (endOf asm.location p + 0) q).reverse.find?
      (fun x => decide (x.1 ≤ endOf asm.location pre) && n == x.2) = none := by
    have hnone := find_localsFrom_none (fun x => decide (x.1 ≤ endOf asm.location pre))
      (endOf asm.location p + 0) hq
    exact List.find?_eq_none.mpr fun y hy =>
      List.find?_eq_none.mp hnone y (List.mem_reverse.mp hy)
  have hle : endOf asm.location p ≤ endOf asm.location pre := by
    refine hwrap.le_here his (y := (endOf asm.location p, n)) ?_
    exact mem_localsFrom.mpr ⟨p, q, hpre, rfl⟩
  have hfind : mid.locals.reverse.find?
      (fun x => decide (x.1 ≤ endOf asm.location pre) && n == x.2) =
        some (endOf asm.location p, n) := by
    have hlocals : localsFrom asm.location pre =
        localsFrom asm.location p ++ (endOf asm.location p, n) ::
          localsFrom (endOf asm.location p + 0) q := by
      rw [hpre, localsFrom_label]
    rw [hmid.locals_split his hl, List.reverse_append, List.find?_append, hafter, Option.none_or,
      hlocals, List.reverse_append, List.reverse_cons, List.find?_append, List.find?_append,
      hbetween]
    simp [hle]
  rw [← hmid.location] at hfind
  exact labelAddress_back hfind

/-- The first definition after an instruction. -/
lemma labelAddress_after (hpost : post = p ++ .localLabel n :: q) (hp : .localLabel n ∉ p) :
    mid.labelAddress (.localName n 'f') = .ok (endOf asm.location (pre ++ i :: p)) := by
  have hbefore : (localsFrom asm.location pre).find?
      (fun x => decide (x.1 > endOf asm.location pre) && n == x.2) = none := by
    refine List.find?_eq_none.mpr fun y hy => ?_
    have hle := hwrap.le_here his hy
    simp [BitVec.not_lt.mpr hle]
  have hlt : endOf asm.location pre < endOf asm.location (pre ++ i :: p) := by
    refine hwrap.here_lt his hl (y := (endOf asm.location (pre ++ i :: p), n)) ?_
    refine mem_localsFrom.mpr ⟨p, q, hpost, ?_⟩
    rw [← endOf_append, List.append_assoc, List.singleton_append]
  have hfind : mid.locals.find? (fun x => decide (x.1 > endOf asm.location pre) && n == x.2) =
      some (endOf asm.location (pre ++ i :: p), n) := by
    rw [hmid.locals_split his hl, List.find?_append, hbefore, Option.none_or, hpost,
      localsFrom_label, List.find?_append, find_localsFrom_none _ _ hp, Option.none_or,
      ← endOf_append,
      List.append_assoc, List.singleton_append, List.find?_cons_of_pos (by simp [hlt])]
  rw [← hmid.location] at hfind
  exact labelAddress_ahead hfind

end

/-- The definition of a global label. -/
lemma labelAddress_global (hmid : asm.Position is pre mid) (his : is = p ++ .globalLabel n :: q) :
    mid.labelAddress (.globalName n) = .ok (endOf asm.location p) := by
  obtain ⟨table, hparse, hpass⟩ := hmid
  obtain ⟨code, rfl, -⟩ := emits_foldlM hpass
  rw [his] at hparse
  obtain ⟨htable, -, -⟩ := globals_new hparse
  exact labelAddress_named htable

end Assembler

/-! ### Mentions -/

/-- What an instruction says about labels. -/
inductive Mention where
  | globalDefinition (name : String)
  | localDefinition (name : String)
  | reference (l : Label)
  | nothing
  deriving DecidableEq

def Instruction.mention : Instruction → Mention
  | .globalLabel n => .globalDefinition n
  | .localLabel n => .localDefinition n
  | i =>
      match i.label with
      | some l => .reference l
      | none => .nothing

namespace Mention

/-- A definition for the label is found, with these mentions before and after it. -/
def resolves (before after : List Mention) : Label → Bool
  | .globalName n => decide (globalDefinition n ∈ before ++ after)
  | .localName n 'b' => decide (localDefinition n ∈ before)
  | .localName n 'f' => decide (localDefinition n ∈ after)
  | .localName .. => false
  | .absolute _ => true

/-- All of the references are resolved. -/
def allResolved (before : List Mention) : List Mention → Bool
  | [] => true
  | reference l :: after =>
      resolves before after l && allResolved (before ++ [reference l]) after
  | m :: after => allResolved (before ++ [m]) after

/-- No global label is defined twice. -/
def definedOnce : List Mention → Bool
  | [] => true
  | globalDefinition n :: after => decide (globalDefinition n ∉ after) && definedOnce after
  | _ :: after => definedOnce after

end Mention

/-- The references of a program are resolved and its global labels are defined once. -/
def WellLabelled (is : List Instruction) : Prop :=
  Mention.allResolved [] (is.map Instruction.mention) = true ∧
    Mention.definedOnce (is.map Instruction.mention) = true

section

variable {is pre post : List Instruction} {i : Instruction} {n : String} {l : Label}

lemma mention_eq_reference (hl : i.label = some l) : i.mention = .reference l := by
  cases i <;> first | exact congrArg Mention.reference (Option.some.inj hl) | cases hl

lemma globalDefinition_mem :
    .globalDefinition n ∈ is.map Instruction.mention ↔ .globalLabel n ∈ is := by
  have hone (i : Instruction) : i.mention = .globalDefinition n ↔ i = .globalLabel n := by
    cases i <;> simp [Instruction.mention, Instruction.label]
  simp [hone]

lemma localDefinition_mem :
    .localDefinition n ∈ is.map Instruction.mention ↔ .localLabel n ∈ is := by
  have hone (i : Instruction) : i.mention = .localDefinition n ↔ i = .localLabel n := by
    cases i <;> simp [Instruction.mention, Instruction.label]
  simp [hone]

/-- The check covers every reference. -/
lemma resolves_of_allResolved {before ms ms' : List Mention}
    (h : Mention.allResolved before (ms ++ .reference l :: ms') = true) :
    Mention.resolves (before ++ ms) ms' l = true := by
  induction ms generalizing before with
  | nil =>
      rw [List.nil_append, Mention.allResolved, Bool.and_eq_true] at h
      rw [List.append_nil]
      exact h.1
  | cons m ms ih =>
      have hrest : Mention.allResolved (before ++ [m]) (ms ++ .reference l :: ms') = true := by
        cases m with
        | reference =>
            rw [List.cons_append, Mention.allResolved, Bool.and_eq_true] at h
            exact h.2
        | _ => exact h
      have htail := ih hrest
      rwa [List.append_assoc, List.singleton_append] at htail

end

namespace Assembler

variable {asm asm' mid table : Assembler} {loc : U32} {is pre post : List Instruction}
  {i : Instruction} {l : Label}

/-- The first pass accepts global labels that are new and defined once. -/
lemma exists_parseFrom (asm : Assembler) (loc : U32)
    (h : Mention.definedOnce (is.map Instruction.mention) = true)
    (hnew : ∀ n, .globalLabel n ∈ is → asm.globals n = none) :
    ∃ table, parseFrom loc is asm = .ok table := by
  induction is generalizing loc asm with
  | nil => exact ⟨asm, rfl⟩
  | cons i is ih =>
      have hrest (n : String) (hn : .globalLabel n ∈ is) : asm.globals n = none :=
        hnew n (List.mem_cons_of_mem _ hn)
      cases i with
      | globalLabel name =>
          have hname : asm.globals name = none := hnew name List.mem_cons_self
          rw [List.map_cons, Instruction.mention, Mention.definedOnce, Bool.and_eq_true,
            decide_eq_true_eq, globalDefinition_mem] at h
          rw [parseFrom, hname]
          refine ih _ _ h.2 fun n hn => ?_
          have hne : n ≠ name := by
            rintro rfl
            exact h.1 hn
          exact (Function.update_of_ne hne ..).trans (hrest n hn)
      | localLabel => exact ih _ _ h hrest
      | _ => exact ih _ _ h hrest

/-- The second pass accepts an instruction whose label is known. -/
lemma exists_assembleInstruction
    (h : ∀ l, i.label = some l → ∃ a, asm.labelAddress l = .ok a) :
    ∃ asm', asm.assembleInstruction i = .ok asm' := by
  have hbranch {l : Label} (code : MachineCode) (hl : i.label = some l) :
      ∃ asm', asm.emitBranch code l = .ok asm' := by
    obtain ⟨a, ha⟩ := h l hl
    exact ⟨_, by rw [emitBranch, branchTarget, ha]; rfl⟩
  have hjump {l : Label} (code : MachineCode) (hl : i.label = some l) :
      ∃ asm', asm.emitJump code l = .ok asm' := by
    obtain ⟨a, ha⟩ := h l hl
    exact ⟨_, by rw [emitJump, jumpTarget, ha]; rfl⟩
  cases i with
  | bgez | bltz | bgezal | bltzal | beq | bne | blez | bgtz | b | beqz | bnez =>
      exact hbranch _ rfl
  | j | jal => exact hjump _ rfl
  | la r l =>
      obtain ⟨a, ha⟩ := h l rfl
      exact ⟨_, by rw [assembleInstruction, ha]; rfl⟩
  | li r v =>
      rw [assembleInstruction]
      split_ifs
      · exact ⟨_, rfl⟩
      · exact ⟨_, rfl⟩
      · exact ⟨_, rfl⟩
  | _ => exact ⟨_, rfl⟩

/-- A reference that is resolved has an address. -/
lemma exists_labelAddress (hwrap : asm.NoWrap is) (hmid : asm.Position is pre mid)
    (his : is = pre ++ i :: post) (hl : i.label = some l)
    (h : Mention.resolves (pre.map Instruction.mention) (post.map Instruction.mention) l = true) :
    ∃ a, mid.labelAddress l = .ok a := by
  unfold Mention.resolves at h
  split at h
  next n =>
    rw [decide_eq_true_eq, ← List.map_append, globalDefinition_mem] at h
    have hmem : .globalLabel n ∈ is := by
      rw [his]
      rcases List.mem_append.mp h with hpre | hpost
      · exact List.mem_append_left _ hpre
      · exact List.mem_append_right _ (List.mem_cons_of_mem _ hpost)
    obtain ⟨p, q, hpq⟩ := List.append_of_mem hmem
    exact ⟨_, labelAddress_global hmid hpq⟩
  next n =>
    rw [decide_eq_true_eq, localDefinition_mem] at h
    obtain ⟨q, p, hqp, hq⟩ := List.eq_append_cons_of_mem (List.mem_reverse.mpr h)
    have hpre := congrArg List.reverse hqp
    rw [List.reverse_reverse, List.reverse_append, List.reverse_cons, List.append_assoc,
      List.singleton_append] at hpre
    exact ⟨_, labelAddress_before hwrap hmid his hl hpre fun hmem => hq (List.mem_reverse.mp hmem)⟩
  next n =>
    rw [decide_eq_true_eq, localDefinition_mem] at h
    obtain ⟨p, q, hpost, hp⟩ := List.eq_append_cons_of_mem h
    exact ⟨_, labelAddress_after hwrap hmid his hl hpost hp⟩
  next => cases h
  next a => exact ⟨a, rfl⟩

/-- The second pass gets to every instruction. -/
lemma exists_position (hwell : WellLabelled is) (hwrap : asm.NoWrap is)
    (hnew : ∀ n, .globalLabel n ∈ is → asm.globals n = none) (his : is = pre ++ post) :
    ∃ mid, asm.Position is pre mid := by
  induction pre using List.reverseRecOn generalizing post with
  | nil =>
      obtain ⟨table, htable⟩ := exists_parseFrom { asm with locals := [] } asm.location hwell.2 hnew
      exact ⟨table, table, htable, rfl⟩
  | append_singleton pre i ih =>
      have hsplit : is = pre ++ i :: post := by rw [his, List.append_assoc, List.singleton_append]
      obtain ⟨mid, hmid⟩ := ih hsplit
      obtain ⟨mid', hone⟩ : ∃ mid', mid.assembleInstruction i = .ok mid' := by
        refine exists_assembleInstruction fun l hl => exists_labelAddress hwrap hmid hsplit hl ?_
        have hall := hwell.1
        rw [hsplit, List.map_append, List.map_cons, mention_eq_reference hl] at hall
        have hresolves := resolves_of_allResolved hall
        rwa [List.nil_append] at hresolves
      obtain ⟨table, hparse, hpass⟩ := hmid
      refine ⟨mid', table, hparse, ?_⟩
      rw [List.foldlM_append, hpass]
      exact (congrArg (· >>= pure) hone).trans rfl

/-- A program with proper labels is assembled. -/
lemma exists_assemble (hwell : WellLabelled is) (hwrap : asm.NoWrap is)
    (hnew : ∀ n, .globalLabel n ∈ is → asm.globals n = none) :
    ∃ size asm', asm.assemble is = .ok (size, asm') := by
  obtain ⟨asm', table, hparse, hpass⟩ := exists_position hwell hwrap hnew (List.append_nil is).symm
  refine ⟨asm'.location - asm.location, asm', ?_⟩
  rw [assemble, hparse]
  exact congrArg (· >>= fun asm' => pure (asm'.location - asm.location, asm')) hpass

/-! ### The code of a program -/

/-- The words stand in the code at the offset `n`. -/
def Sits (code : List U8) (n : ℕ) (ws : List U32) : Prop :=
  ∃ before after, code = before ++ (ws.flatMap littleEndian ++ after) ∧ before.length = n

lemma Sits.tail {code : List U8} {n : ℕ} {w : U32} {ws : List U32} (h : Sits code n (w :: ws)) :
    Sits code (n + 4) ws := by
  obtain ⟨before, after, rfl, rfl⟩ := h
  exact ⟨before ++ littleEndian w, after, by simp, by simp [littleEndian]⟩

/-- The words of an instruction stand where the first pass expects them. -/
lemma Position.sits {ws : List U32} (hend : asm.Position is is asm')
    (hmid : asm.Position is pre mid) (his : is = pre ++ i :: post)
    (hone : mid.assembleInstruction i = .ok (mid.emit (ws.flatMap littleEndian))) :
    Sits asm'.machineCode (asm.machineCode.length + sizeOf asm.location pre) ws := by
  have hlength := hmid.length
  obtain ⟨table, hparse, hpass⟩ := hend
  obtain ⟨table', hparse', hpass'⟩ := hmid
  obtain rfl := Except.ok.inj (hparse.symm.trans hparse')
  rw [his, List.foldlM_append, hpass'] at hpass
  change (i :: post).foldlM assembleInstruction mid = .ok asm' at hpass
  obtain ⟨mid', hone', hrest⟩ := bind_ok hpass
  obtain rfl := Except.ok.inj (hone.symm.trans hone')
  obtain ⟨code, rfl, -⟩ := emits_foldlM hrest
  exact ⟨mid.machineCode, code, List.append_assoc .., hlength⟩

end Assembler

/-! ### Sizes -/

section

variable {is : List Instruction} {i : Instruction}

lemma bytes_of_not_align (h : ∀ o, i ≠ .align o) (loc : U32) :
    (i.bytes loc).toNat % 4 = 0 ∧ (i.bytes loc).toNat ≤ 8 := by
  cases i with
  | align o => exact absurd rfl (h o)
  | li r v =>
      rw [Instruction.bytes]
      split_ifs <;> decide
  | _ => simp [Instruction.bytes]

/-- Without padding the code consists of words, two of them for an instruction at
most. -/
lemma sizeOf_of_not_align (h : ∀ o, .align o ∉ is) (loc : U32) :
    sizeOf loc is % 4 = 0 ∧ sizeOf loc is ≤ 8 * is.length := by
  induction is generalizing loc with
  | nil => exact ⟨rfl, le_rfl⟩
  | cons i is ih =>
      have hone := bytes_of_not_align (fun o ho => h o (ho ▸ List.mem_cons_self)) loc
      have hrest := ih (fun o ho => h o (List.mem_cons_of_mem _ ho)) (loc + i.bytes loc)
      rw [sizeOf, List.length_cons]
      omega

end

end Asm

end Rustation
