import Rustation.Lib.Bytes
import Rustation.ParallelIo.Loading

/-!
The file format of executables (`ExeLoader::load` of `parallel_io/exe_loader.rs`).

The file is read from its start to its end, field by field.  The source adds the two words of the
stack pointer with a check, before anything after them has been read.

* `readExact`, `readU32`, `loadFrom`: the reader; a short file is an error of the reader, and a sum
  that overflows stops it;
* `wordAt`, `Accepted`, `Describes`: the format, by offsets into the file;
* `readU32_bind`, `readU32_ioError`: what one read does, at a known offset;
* `loadFrom_accepted`, `loadFrom_overflow`, `loadFrom_refused`: the three ways a file can go;
* `load_exact_iff`: the reader accepts exactly its format, unless the sum overflows.
-/

namespace Rustation

open Fallible

namespace ExeLoader

/-! ### The reader -/

inductive Error where
  | ioError
  /-- not an executable -/
  | unknownFormat
  | tooBig (len : U32)
  deriving DecidableEq, Repr

/-- A part of the reader: it returns, possibly with an error, or stops. -/
abbrev Loading (α : Type) := ExceptT Error Outcome α

def fail {α : Type} (e : Error) : Loading α := ExceptT.mk (pure (.error e))

/-- The next `n` bytes and what follows them. -/
def readExact (r : List U8) (n : ℕ) : Loading (List U8 × List U8) :=
  if n ≤ r.length then pure (r.take n, r.drop n) else fail .ioError

def littleEndian (b0 b1 b2 b3 : U8) : U32 :=
  b0.setWidth 32 ||| b1.setWidth 32 <<< 8 ||| b2.setWidth 32 <<< 16 ||| b3.setWidth 32 <<< 24

def readU32 (r : List U8) : Loading (U32 × List U8) := do
  let (b, r) ← readExact r 4
  pure (littleEndian (b.getD 0 0) (b.getD 1 0) (b.getD 2 0) (b.getD 3 0), r)

def checkedAdd (a b : U32) : Outcome U32 :=
  if a.toNat + b.toNat < 2 ^ 32 then pure (a + b) else throw .overflow

def magic : List U8 := ascii "PS-X EXE" ++ List.replicate 8 0

/-- The region in the license string. -/
def regionOf (regionStr : List U8) : Option Region :=
  if regionStr = ascii "Japan" then some .japan
  else if regionStr = ascii "Europ" then some .europe
  else if regionStr = ascii "North" then some .northAmerica
  else none

/-- Load an executable from a file. -/
def loadFrom (r : List U8) : Loading ExeLoader := do
  let (buf, r) ← readExact r 16
  if buf ≠ magic then fail .unknownFormat
  else
    let (entry, r) ← readU32 r
    let (initialGp, r) ← readU32 r
    let (base, r) ← readU32 r
    let (textLen, r) ← readU32 r
    if textLen.toNat > 2 * 1024 * 1024 then fail (.tooBig textLen)
    else
      -- unused
      let (_, r) ← readU32 r
      let (_, r) ← readU32 r
      let (memfillBase, r) ← readU32 r
      let (memfillLen, r) ← readU32 r
      let (sp, r) ← readU32 r
      let (offset, r) ← readU32 r
      let initialSp ← checkedAdd sp offset
      -- padding, and the start of the license string
      let (_, r) ← readExact r 20
      let (_, r) ← readExact r 37
      let (regionStr, r) ← readExact r 5
      let (_, r) ← readExact r 1930
      let (text, _) ← readExact r textLen.toNat
      assembleLoader {
        base := base
        entry := entry
        initialGp := initialGp
        initialSp := initialSp
        memfillBase := memfillBase
        memfillLen := memfillLen
        region := regionOf regionStr
        text := text
        textIndex := 0
        loader := [] }

/-! ### The format -/

/-- The little-endian word at an offset. -/
def wordAt (file : List U8) (k : ℕ) : ℕ :=
  (file.getD k 0).toNat + 2 ^ 8 * (file.getD (k + 1) 0).toNat
    + 2 ^ 16 * (file.getD (k + 2) 0).toNat + 2 ^ 24 * (file.getD (k + 3) 0).toNat

/-- The length of the text. -/
def textLength (file : List U8) : ℕ := wordAt file 28

/-- The file is an executable. -/
structure Accepted (file : List U8) : Prop where
  magic : file.take 16 = magic
  small : textLength file ≤ 2 * 1024 * 1024
  complete : 2048 + textLength file ≤ file.length

/-- The module has the contents of the file. -/
structure Describes (file : List U8) (exe : ExeLoader) : Prop where
  text : exe.text = (file.drop 2048).take (textLength file)
  entry : exe.entry.toNat = wordAt file 16
  initialGp : exe.initialGp.toNat = wordAt file 20
  base : exe.base.toNat = wordAt file 24
  memfillBase : exe.memfillBase.toNat = wordAt file 40
  memfillLen : exe.memfillLen.toNat = wordAt file 44
  initialSp : exe.initialSp.toNat = wordAt file 48 + wordAt file 52
  region : exe.region = regionOf ((file.drop 113).take 5)

/-- The header goes up to the two words of the stack pointer, and their sum is not a word. -/
structure Overflows (file : List U8) : Prop where
  magic : file.take 16 = ExeLoader.magic
  small : textLength file ≤ 2 * 1024 * 1024
  header : 56 ≤ file.length
  sum : 2 ^ 32 ≤ wordAt file 48 + wordAt file 52

/-! ### One read -/

section

variable {α : Type} {file : List U8} {k n : ℕ}

lemma littleEndian_toNat (b0 b1 b2 b3 : U8) :
    (littleEndian b0 b1 b2 b3).toNat
      = b0.toNat + 2 ^ 8 * b1.toNat + 2 ^ 16 * b2.toNat + 2 ^ 24 * b3.toNat := by
  have h0 : (b0.setWidth 32).toNat = b0.toNat := by
    rw [BitVec.toNat_setWidth]
    exact Nat.mod_eq_of_lt (b0.isLt.trans (by norm_num))
  have h1 := Bytes.toNat_combine (v := b0.setWidth 32) (i := 1) b1 (by rw [h0]; exact b0.isLt)
    (by norm_num)
  have hlt0 := b0.isLt
  have hlt1 := b1.isLt
  have hlt2 := b2.isLt
  rw [h0] at h1
  have h2 := Bytes.toNat_combine (v := b0.setWidth 32 ||| b1.setWidth 32 <<< (1 * 8)) (i := 2) b2
    (by rw [h1]; omega) (by norm_num)
  rw [h1] at h2
  have h3 := Bytes.toNat_combine
    (v := b0.setWidth 32 ||| b1.setWidth 32 <<< (1 * 8) ||| b2.setWidth 32 <<< (2 * 8)) (i := 3) b3
    (by rw [h2]; omega) (by norm_num)
  rw [h2] at h3
  exact h3

/-- The word at an offset, as the machine word that is read there. -/
def field (file : List U8) (k : ℕ) : U32 :=
  littleEndian (file.getD k 0) (file.getD (k + 1) 0) (file.getD (k + 2) 0) (file.getD (k + 3) 0)

lemma field_toNat (file : List U8) (k : ℕ) : (field file k).toNat = wordAt file k :=
  littleEndian_toNat _ _ _ _

lemma readExact_bind (f : List U8 × List U8 → Loading α) (h : k + n ≤ file.length) :
    (readExact (file.drop k) n >>= f) = f ((file.drop k).take n, file.drop (k + n)) := by
  rw [readExact, if_pos (by rw [List.length_drop]; omega), List.drop_drop]
  rfl

lemma readU32_bind (f : U32 × List U8 → Loading α) (h : k + 4 ≤ file.length) :
    (readU32 (file.drop k) >>= f) = f (field file k, file.drop (k + 4)) := by
  have hbyte {i : ℕ} (hi : i < 4) : ((file.drop k).take 4).getD i 0 = file.getD (k + i) 0 := by
    rw [List.getD_eq_getElem?_getD, List.getElem?_take_of_lt hi, List.getElem?_drop,
      List.getD_eq_getElem?_getD]
  rw [readU32, bind_assoc, readExact_bind _ h]
  simp only [pure_bind]
  rw [hbyte (by norm_num), hbyte (by norm_num), hbyte (by norm_num), hbyte (by norm_num)]
  rfl

/-- A read that is an error, or is followed by one. -/
lemma readExact_ioError {f : List U8 × List U8 → Loading α} (hk : k ≤ file.length)
    (h : k + n ≤ file.length → f ((file.drop k).take n, file.drop (k + n)) = fail .ioError) :
    (readExact (file.drop k) n >>= f) = fail .ioError := by
  by_cases hlen : k + n ≤ file.length
  · rw [readExact_bind f hlen, h hlen]
  · rw [readExact, if_neg (by rw [List.length_drop]; omega)]
    rfl

lemma readU32_ioError {f : U32 × List U8 → Loading α} (hk : k ≤ file.length)
    (h : k + 4 ≤ file.length → f (field file k, file.drop (k + 4)) = fail .ioError) :
    (readU32 (file.drop k) >>= f) = fail .ioError := by
  by_cases hlen : k + 4 ≤ file.length
  · rw [readU32_bind f hlen, h hlen]
  · rw [readU32, bind_assoc]
    refine readExact_ioError hk fun hle => absurd hle hlen

end

/-! ### Whole files -/

section

variable {α β : Type} {file : List U8}

lemma liftM_ok_bind (a : α) (f : α → Loading β) :
    (liftM (.ok a : Outcome α) >>= f : Loading β) = f a := rfl

lemma liftM_error_bind (e : Fault) (f : α → Loading β) :
    (liftM (.error e : Outcome α) >>= f : Loading β) = ExceptT.mk (.error e) := rfl

lemma checkedAdd_field (hsum : wordAt file 48 + wordAt file 52 < 2 ^ 32) :
    checkedAdd (field file 48) (field file 52) = .ok (field file 48 + field file 52) := by
  rw [checkedAdd, field_toNat, field_toNat, if_pos hsum, pure_eq_ok]

lemma small_field (h : textLength file ≤ 2 * 1024 * 1024) :
    ¬(field file 28).toNat > 2 * 1024 * 1024 := by
  rw [field_toNat]
  exact not_lt.mpr h

/-- A complete file is loaded. -/
lemma loadFrom_accepted (h : Accepted file) (hsum : wordAt file 48 + wordAt file 52 < 2 ^ 32) :
    ∃ exe, loadFrom file = pure exe ∧ Describes file exe := by
  have hmagic : ¬(file.drop 0).take 16 ≠ magic := not_not.mpr h.magic
  have htext : 2048 + (field file 28).toNat ≤ file.length := by
    rw [field_toNat]
    exact h.complete
  have hadd : (field file 48 + field file 52).toNat = wordAt file 48 + wordAt file 52 := by
    rw [BitVec.toNat_add, field_toNat, field_toNat, Nat.mod_eq_of_lt hsum]
  change ∃ exe, loadFrom (file.drop 0) = pure exe ∧ Describes file exe
  rw [loadFrom, readExact_bind _ (by omega)]
  dsimp only
  rw [if_neg hmagic]
  simp (disch := omega) only [readU32_bind]
  rw [if_neg (small_field h.small)]
  simp only [Nat.reduceAdd, checkedAdd_field hsum, liftM_ok_bind]
  simp (disch := omega) only [readExact_bind, Nat.reduceAdd]
  obtain ⟨code, hcode, -⟩ := exists_placed {
    base := field file 24
    entry := field file 16
    initialGp := field file 20
    initialSp := field file 48 + field file 52
    memfillBase := field file 40
    memfillLen := field file 44
    region := regionOf ((file.drop 113).take 5)
    text := (file.drop 2048).take (field file 28).toNat
    textIndex := 0
    loader := [] }
  rw [hcode]
  refine ⟨_, rfl, ?_, field_toNat file 16, field_toNat file 20, field_toNat file 24,
    field_toNat file 40, field_toNat file 44, hadd, rfl⟩
  rw [field_toNat]
  rfl

/-- The sum of the stack pointer is computed before the rest of the file is read. -/
lemma loadFrom_overflow (h : Overflows file) : (loadFrom file).run = .error .overflow := by
  have hmagic : ¬(file.drop 0).take 16 ≠ magic := not_not.mpr h.magic
  have hheader := h.header
  have hadd : checkedAdd (field file 48) (field file 52) = .error .overflow := by
    rw [checkedAdd, field_toNat, field_toNat, if_neg (not_lt.mpr h.sum), throw_eq_error]
  change loadFrom (file.drop 0) = _
  rw [loadFrom, readExact_bind _ (by omega)]
  dsimp only
  rw [if_neg hmagic]
  simp (disch := omega) only [readU32_bind]
  rw [if_neg (small_field h.small)]
  simp only [Nat.reduceAdd, hadd, liftM_error_bind]
  rfl

/-- A file that is not in the format is refused. -/
lemma loadFrom_refused (h : ¬Accepted file) (hsum : ¬Overflows file) :
    ∃ e, loadFrom file = fail e := by
  change ∃ e, loadFrom (file.drop 0) = fail e
  by_cases h16 : 16 ≤ file.length
  · rw [loadFrom, readExact_bind _ (by omega)]
    dsimp only
    by_cases hmagic : (file.drop 0).take 16 = magic
    · rw [if_neg (not_not.mpr hmagic)]
      by_cases h32 : 32 ≤ file.length
      · simp (disch := omega) only [readU32_bind]
        by_cases hsmall : textLength file ≤ 2 * 1024 * 1024
        · rw [if_neg (small_field hsmall)]
          by_cases h56 : 56 ≤ file.length
          · have hlt : wordAt file 48 + wordAt file 52 < 2 ^ 32 :=
              Nat.lt_of_not_le fun hle => hsum ⟨hmagic, hsmall, h56, hle⟩
            have hshort : ¬2048 + (field file 28).toNat ≤ file.length := by
              rw [field_toNat]
              exact fun hle => h ⟨hmagic, hsmall, hle⟩
            simp (disch := omega) only [readU32_bind]
            simp only [Nat.reduceAdd, checkedAdd_field hlt, liftM_ok_bind]
            refine ⟨.ioError, readExact_ioError (by omega) fun h76 => ?_⟩
            refine readExact_ioError h76 fun h113 => ?_
            refine readExact_ioError h113 fun h118 => ?_
            refine readExact_ioError h118 fun h2048 => ?_
            exact readExact_ioError h2048 fun hle => absurd hle hshort
          · refine ⟨.ioError, readU32_ioError (by omega) fun h36 => ?_⟩
            refine readU32_ioError h36 fun h40 => ?_
            refine readU32_ioError h40 fun h44 => ?_
            refine readU32_ioError h44 fun h48 => ?_
            refine readU32_ioError h48 fun h52 => ?_
            exact readU32_ioError h52 fun hle => absurd hle h56
        · have hbig : (field file 28).toNat > 2 * 1024 * 1024 := by
            rw [field_toNat]
            exact Nat.lt_of_not_le hsmall
          rw [if_pos hbig]
          exact ⟨_, rfl⟩
      · refine ⟨.ioError, readU32_ioError (by omega) fun h20 => ?_⟩
        refine readU32_ioError h20 fun h24 => ?_
        refine readU32_ioError h24 fun h28 => ?_
        exact readU32_ioError h28 fun hle => absurd hle h32
    · rw [if_pos hmagic]
      exact ⟨_, rfl⟩
  · refine ⟨.ioError, ?_⟩
    rw [loadFrom]
    exact readExact_ioError (Nat.zero_le _) fun hle => absurd hle (by omega)

/-- The reader returns, it accepts the files in the format and no other, and it reads their
fields. -/
structure Exact (file : List U8) : Prop where
  returns : ∃ r, (loadFrom file).run = .ok r
  accepts : (∃ exe, (loadFrom file).run = .ok (.ok exe)) ↔ Accepted file
  describes : ∀ exe, (loadFrom file).run = .ok (.ok exe) → Describes file exe

/-- **The format.**  The reader does what its format asks for exactly when the sum of the stack
pointer, if the header goes that far, is a word. -/
theorem load_exact_iff (file : List U8) : Exact file ↔ ¬Overflows file := by
  constructor
  · intro h hover
    obtain ⟨r, hr⟩ := h.returns
    rw [loadFrom_overflow hover] at hr
    cases hr
  · intro hover
    by_cases haccepted : Accepted file
    · have hcomplete := haccepted.complete
      have hsum : wordAt file 48 + wordAt file 52 < 2 ^ 32 :=
        Nat.lt_of_not_le fun hle => hover ⟨haccepted.magic, haccepted.small, by omega, hle⟩
      obtain ⟨exe, hexe, hdescribes⟩ := loadFrom_accepted haccepted hsum
      have hrun : (loadFrom file).run = .ok (.ok exe) := congrArg ExceptT.run hexe
      refine ⟨⟨_, hrun⟩, ⟨fun _ => haccepted, fun _ => ⟨exe, hrun⟩⟩, fun exe' h => ?_⟩
      rw [hrun] at h
      obtain rfl := Except.ok.inj (Except.ok.inj h)
      exact hdescribes
    · obtain ⟨e, he⟩ := loadFrom_refused haccepted hover
      have hrun : (loadFrom file).run = .ok (.error e) := congrArg ExceptT.run he
      have hno (exe : ExeLoader) : (loadFrom file).run ≠ .ok (.ok exe) := by
        rw [hrun]
        nofun
      exact ⟨⟨_, hrun⟩, ⟨fun ⟨exe, h⟩ => absurd h (hno exe), fun h => absurd h haccepted⟩,
        fun exe h => absurd h (hno exe)⟩

/-- A header that ends after the stack pointer, whose two words are as large as they can be. -/
def largeStack : List U8 := magic ++ List.replicate 32 0 ++ List.replicate 8 0xff

theorem load_not_exact : ¬∀ file, Exact file := by
  intro h
  have hover : Overflows largeStack := ⟨by decide, by decide, by decide, by decide⟩
  obtain ⟨r, hr⟩ := (h largeStack).returns
  rw [loadFrom_overflow hover] at hr
  cases hr

end

end ExeLoader

end Rustation
