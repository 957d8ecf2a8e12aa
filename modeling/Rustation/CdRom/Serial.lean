import Rustation.CdRom.Iso9660
import Rustation.Lib.Words

/-!
The serial number of a disc (`cdrom/disc.rs`), which is taken from the name of the executable in
the file `SYSTEM.CNF`.

The file is cut into lines, a line into words, and the path of the executable into its parts.

* `SerialNumber.fromBinName`, `bootPath`, `extractSerialNumber`: the code;
* `BootLine`: a line of two words, the first of which is `BOOT` (`words_eq_iff`);
* `BootsFrom`: a file whose first such line has the path of an executable with the given name;
* `boot_serial`: the serial number of such a file, and no file makes the code stop.
-/

namespace Rustation

open Fallible

/-! ### Names of executables -/

namespace SerialNumber

def toUpper (b : U8) : U8 := if 0x61 ≤ b ∧ b ≤ 0x7a then b - 0x61 + 0x41 else b

/-- The serial number in a name of the form `aaaa_ddd.dd`. -/
def fromBinName (bin : List U8) : Outcome (Option SerialNumber) :=
  if bin.length ≠ 11 then pure none
  else do
    let separator ← Slice.get bin 4
    if separator ≠ 0x5f then pure none
    else
      let s0 ← Slice.get bin 0
      let s1 ← Slice.get bin 1
      let s2 ← Slice.get bin 2
      let s3 ← Slice.get bin 3
      let s5 ← Slice.get bin 5
      let s6 ← Slice.get bin 6
      let s7 ← Slice.get bin 7
      let s8 ← Slice.get bin 9
      let s9 ← Slice.get bin 10
      pure (some #v[toUpper s0, toUpper s1, toUpper s2, toUpper s3, 0x2d, s5, s6, s7, s8, s9])

end SerialNumber

/-! ### The file -/

def isNewline (b : U8) : Bool := b == 0x0a

/-- A space, a tab or `=`. -/
def isBlank (b : U8) : Bool := b == 0x20 || b == 0x09 || b == 0x3d

/-- One of the characters `:`, `;` and `\`. -/
def isPathSeparator (b : U8) : Bool := b == 0x3a || b == 0x3b || b == 0x5c

/-- The second word of the first line that has two words, the first of which is `BOOT`. -/
def bootPath : List (List U8) → Outcome (Option (List U8))
  | [] => pure none
  | line :: lines =>
      let words := line.words isBlank
      if words.length = 2 then do
        let word ← Slice.get words 0
        if word = ascii "BOOT" then
          let path ← Slice.get words 1
          pure (some path)
        else bootPath lines
      else bootPath lines

/-- The serial number of a disc, given what reading `SYSTEM.CNF` returned. -/
def extractSerialNumber (systemCnf : Except Iso9660.Error (List U8)) :
    Outcome (Option SerialNumber) :=
  match systemCnf with
  | .error _ => pure none
  | .ok systemCnf => do
      match ← bootPath (systemCnf.splitOnP isNewline) with
      | none => pure none
      | some path =>
          let path := path.splitOnP isPathSeparator
          if path.length < 2 then pure none
          else
            let binName ← Slice.get path (path.length - 2)
            SerialNumber.fromBinName binName

/-! ### What a file can look like -/

/-- The line is made of the words `BOOT` and `path`. -/
def BootLine (line path : List U8) : Prop :=
  ∃ s₀ s₁ s₂, line = s₀ ++ (ascii "BOOT" ++ (s₁ ++ (path ++ s₂)))
    ∧ (∀ b ∈ s₀ ++ s₁ ++ s₂, isBlank b = true) ∧ s₁ ≠ [] ∧ path ≠ []
    ∧ ∀ b ∈ path, isBlank b = false

/-- The path `device:\d1\...\dn\name;version`, with what may follow the version. -/
def executablePath (device : List U8) (dirs : List (List U8)) (name version cr : List U8) :
    List U8 :=
  device ++ 0x3a :: 0x5c :: (dirs.flatMap (· ++ [0x5c]) ++ (name ++ 0x3b :: (version ++ cr)))

/-- The first boot line of the file has the path of an executable with the given name. -/
def BootsFrom (cnf name : List U8) : Prop :=
  ∃ (before : List (List U8)) (line rest device : List U8) (dirs : List (List U8))
    (version cr : List U8),
    cnf = before.flatMap (· ++ [0x0a]) ++ (line ++ rest)
      ∧ (∀ l ∈ before, (∀ b ∈ l, isNewline b = false) ∧ ∀ path, ¬BootLine l path)
      ∧ (∀ b ∈ line, isNewline b = false) ∧ (∀ b ∈ rest.head?, isNewline b = true)
      ∧ BootLine line (executablePath device dirs name version cr)
      ∧ (∀ part ∈ device :: name :: version :: dirs, ∀ b ∈ part, isPathSeparator b = false)
      ∧ (cr = [] ∨ cr = [0x0d])

/-- The serial number in a name: the first four bytes in upper case, a dash, and the digits. -/
def serialOf (name : List U8) : Option (List U8) :=
  if name.length = 11 ∧ name.getD 4 0 = 0x5f then
    some ((name.take 4).map (fun b => if 97 ≤ b.toNat ∧ b.toNat ≤ 122 then b - 32 else b)
      ++ 0x2d :: ((name.drop 5).take 3 ++ (name.drop 9).take 2))
  else none

/-! ### Lines -/

lemma blank_of_boot : ∀ b ∈ ascii "BOOT", isBlank b = false := by decide

/-- A line with the two words has the shape of a boot line. -/
lemma words_eq_iff {line path : List U8} :
    line.words isBlank = [ascii "BOOT", path] ↔ BootLine line path := by
  constructor
  · intro h
    obtain ⟨s₀, rest₀, rfl, hs₀, -, -, hends, hwords⟩ := List.words_eq_cons h
    obtain ⟨s₁, s₂, rfl, hs₁, hne, hpath, -, hnil⟩ := List.words_eq_cons hwords
    have hs₂ := List.separators_of_words_eq_nil hnil
    refine ⟨s₀, s₁, s₂, rfl, ?_, ?_, hne, hpath⟩
    · intro b hb
      rcases List.mem_append.mp hb with hb | hb
      · rcases List.mem_append.mp hb with hb | hb
        · exact hs₀ b hb
        · exact hs₁ b hb
      · exact hs₂ b hb
    · -- the second word does not start with a separator
      rintro rfl
      obtain ⟨b, path, rfl⟩ := List.exists_cons_of_ne_nil hne
      have htrue : isBlank b = true := hends b rfl
      rw [hpath b List.mem_cons_self] at htrue
      cases htrue
  · rintro ⟨s₀, s₁, s₂, rfl, hblank, hs₁, hne, hpath⟩
    have hblank₀ : ∀ b ∈ s₀, isBlank b = true := fun b hb => hblank b (by simp [hb])
    have hblank₁ : ∀ b ∈ s₁, isBlank b = true := fun b hb => hblank b (by simp [hb])
    have hblank₂ : ∀ b ∈ s₂, isBlank b = true := fun b hb => hblank b (by simp [hb])
    have hends₁ : List.Ends isBlank (s₁ ++ (path ++ s₂)) := by
      obtain ⟨b, s, rfl⟩ := List.exists_cons_of_ne_nil hs₁
      intro c hc
      obtain rfl := Option.some.inj hc
      exact hblank₁ b List.mem_cons_self
    have hends₂ : List.Ends isBlank s₂ := fun b hb => hblank₂ b (List.mem_of_mem_head? hb)
    rw [List.words_separators hblank₀, List.words_word (by decide) blank_of_boot hends₁,
      List.words_separators hblank₁, List.words_word hne hpath hends₂, List.words_eq_nil hblank₂]

/-- The lines are gone through up to the first boot line. -/
lemma bootPath_cons (line : List U8) (lines : List (List U8)) :
    (∃ path, BootLine line path ∧ bootPath (line :: lines) = .ok (some path))
      ∨ ((∀ path, ¬BootLine line path) ∧ bootPath (line :: lines) = bootPath lines) := by
  rw [bootPath]
  by_cases hlen : (line.words isBlank).length = 2
  · obtain ⟨word, path, hwords⟩ := List.length_eq_two.mp hlen
    have hfirst : Slice.get [word, path] 0 = .ok word := rfl
    have hsecond : Slice.get [word, path] 1 = .ok path := rfl
    have htwo : [word, path].length = 2 := rfl
    simp only [hwords]
    rw [if_pos htwo, hfirst, ok_bind]
    by_cases hboot : word = ascii "BOOT"
    · rw [if_pos hboot, hsecond, ok_bind]
      exact .inl ⟨path, words_eq_iff.mp (by rw [hwords, hboot]), rfl⟩
    · rw [if_neg hboot]
      refine .inr ⟨fun path' hline => hboot ?_, rfl⟩
      rw [← words_eq_iff, hwords] at hline
      injection hline
  · rw [if_neg hlen]
    refine .inr ⟨fun path hline => hlen ?_, rfl⟩
    rw [words_eq_iff.mpr hline]
    rfl

lemma bootPath_total (lines : List (List U8)) : ∃ path, bootPath lines = .ok path := by
  induction lines with
  | nil => exact ⟨none, rfl⟩
  | cons line lines ih =>
      rcases bootPath_cons line lines with ⟨path, -, h⟩ | ⟨-, h⟩
      · exact ⟨some path, h⟩
      · rw [h]
        exact ih

/-- The path of the first boot line. -/
lemma bootPath_lines {before : List (List U8)} {line path : List U8}
    (hbefore : ∀ l ∈ before, ∀ path, ¬BootLine l path) (hline : BootLine line path)
    (after : List (List U8)) :
    bootPath (before ++ line :: after) = .ok (some path) := by
  induction before with
  | nil =>
      rcases bootPath_cons line after with ⟨path', hline', h⟩ | ⟨hnot, -⟩
      · have heq := words_eq_iff.mpr hline
        rw [words_eq_iff.mpr hline'] at heq
        injection heq with _ heq
        injection heq with heq
        rw [List.nil_append, h, heq]
      · exact absurd hline (hnot path)
  | cons l before ih =>
      have hrest := ih fun l' hl' => hbefore l' (List.mem_cons_of_mem l hl')
      rcases bootPath_cons l (before ++ line :: after) with ⟨path', hl, -⟩ | ⟨-, h⟩
      · exact absurd hl (hbefore l List.mem_cons_self path')
      · rw [List.cons_append, h, hrest]

/-! ### Paths and names -/

/-- The parts of the path of an executable, of which the name is the last but one. -/
lemma splitOnP_executablePath {device name version cr : List U8} {dirs : List (List U8)}
    (hparts : ∀ part ∈ device :: name :: version :: dirs, ∀ b ∈ part, isPathSeparator b = false)
    (hcr : cr = [] ∨ cr = [0x0d]) :
    (executablePath device dirs name version cr).splitOnP isPathSeparator
      = (device :: [] :: dirs) ++ [name, version ++ cr] := by
  have hdirs : ∀ part ∈ dirs, ∀ b ∈ part, isPathSeparator b = false :=
    fun part hpart => hparts part (by simp [hpart])
  have hversion : ∀ b ∈ version ++ cr, isPathSeparator b = false := by
    intro b hb
    rcases List.mem_append.mp hb with hb | hb
    · exact hparts version (by simp) b hb
    · rcases hcr with rfl | rfl
      · cases hb
      · obtain rfl := List.mem_singleton.mp hb
        rfl
  have hempty : ∀ b ∈ ([] : List U8), isPathSeparator b = false := nofun
  rw [executablePath,
    List.splitOnP_append_cons_of_forall_mem (hparts device (by simp)) 0x3a rfl,
    ← List.nil_append (0x5c :: _), List.splitOnP_append_cons_of_forall_mem hempty 0x5c rfl,
    List.splitOnP_lines rfl hdirs,
    List.splitOnP_append_cons_of_forall_mem (hparts name (by simp)) 0x3b rfl,
    List.splitOnP_eq_singleton hversion]
  rfl

lemma toUpper_eq (b : U8) :
    SerialNumber.toUpper b = if 97 ≤ b.toNat ∧ b.toNat ≤ 122 then b - 32 else b := by
  rw [SerialNumber.toUpper]
  refine if_congr (and_congr BitVec.le_def BitVec.le_def) ?_ rfl
  rw [BitVec.sub_eq_add_neg, BitVec.add_assoc, BitVec.sub_eq_add_neg]
  rfl

/-- The serial number in a name. -/
lemma fromBinName_eq (name : List U8) :
    ∃ serial, SerialNumber.fromBinName name = .ok serial
      ∧ serial.map Vector.toList = serialOf name := by
  rw [SerialNumber.fromBinName, serialOf]
  by_cases hlen : name.length = 11
  · have hget {i : ℕ} (hi : i < 11) : Slice.get name i = .ok (name.getD i 0) :=
      Slice.get_eq_getD 0 (by omega)
    rw [if_neg (not_not.mpr hlen), hget (by norm_num), ok_bind]
    by_cases hsep : name.getD 4 0 = 0x5f
    · rw [if_neg (not_not.mpr hsep), if_pos ⟨hlen, hsep⟩]
      refine ⟨_, by
        rw [hget (by norm_num), ok_bind, hget (by norm_num), ok_bind, hget (by norm_num), ok_bind,
          hget (by norm_num), ok_bind, hget (by norm_num), ok_bind, hget (by norm_num), ok_bind,
          hget (by norm_num), ok_bind, hget (by norm_num), ok_bind, hget (by norm_num), ok_bind,
          pure_eq_ok], ?_⟩
      simp only [toUpper_eq]
      match name, hlen with
      | [b0, b1, b2, b3, b4, b5, b6, b7, b8, b9, b10], _ => rfl
    · rw [if_pos hsep, if_neg fun h => hsep h.2]
      exact ⟨none, rfl, rfl⟩
  · rw [if_pos hlen, if_neg fun h => hlen h.1]
    exact ⟨none, rfl, rfl⟩

/-! ### Whole files -/

lemma extractSerialNumber_of_path {cnf path : List U8}
    (hpath : bootPath (cnf.splitOnP isNewline) = .ok (some path)) {init : List (List U8)}
    {name last : List U8} (hsplit : path.splitOnP isPathSeparator = init ++ [name, last]) :
    extractSerialNumber (.ok cnf) = SerialNumber.fromBinName name := by
  have hlen : (init ++ [name, last]).length = init.length + 2 := by simp
  have hname : (init ++ [name, last])[init.length]? = some name := by simp
  rw [extractSerialNumber, hpath, ok_bind]
  simp only [hsplit, hlen]
  rw [if_neg (by omega), Nat.add_sub_cancel, Slice.get_of_some hname, ok_bind]

lemma extractSerialNumber_total (cnf : List U8) :
    ∃ serial, extractSerialNumber (.ok cnf) = .ok serial := by
  obtain ⟨path, hpath⟩ := bootPath_total (cnf.splitOnP isNewline)
  rw [extractSerialNumber, hpath, ok_bind]
  cases path with
  | none => exact ⟨none, rfl⟩
  | some path =>
      simp only
      by_cases hlen : (path.splitOnP isPathSeparator).length < 2
      · rw [if_pos hlen]
        exact ⟨none, rfl⟩
      · rw [if_neg hlen, Slice.get_of_lt (by omega), ok_bind]
        obtain ⟨serial, h, -⟩ := fromBinName_eq
          (path.splitOnP isPathSeparator)[(path.splitOnP isPathSeparator).length - 2]
        exact ⟨serial, h⟩

/-- **Serial numbers.**  No file makes the extraction stop, and a file that boots from an
executable gives the serial number in the name of the executable. -/
theorem boot_serial (cnf : List U8) :
    (∃ serial, extractSerialNumber (.ok cnf) = .ok serial)
      ∧ ∀ name, BootsFrom cnf name → ∃ serial, extractSerialNumber (.ok cnf) = .ok serial
        ∧ serial.map Vector.toList = serialOf name := by
  refine ⟨extractSerialNumber_total cnf, ?_⟩
  rintro name ⟨before, line, rest, device, dirs, version, cr, rfl, hbefore, hline, hrest, hboot,
    hparts, hcr⟩
  have hlines : ∃ after, (before.flatMap (· ++ [0x0a]) ++ (line ++ rest)).splitOnP isNewline
      = before ++ line :: after := by
    rw [List.splitOnP_lines rfl fun l hl => (hbefore l hl).1]
    cases rest with
    | nil => exact ⟨[], by rw [List.append_nil, List.splitOnP_eq_singleton hline]⟩
    | cons b rest =>
        exact ⟨_, by rw [List.splitOnP_append_cons_of_forall_mem hline b (hrest b rfl)]⟩
  obtain ⟨after, hlines⟩ := hlines
  have hpath := bootPath_lines (fun l hl => (hbefore l hl).2) hboot after
  rw [← hlines] at hpath
  rw [extractSerialNumber_of_path hpath (splitOnP_executablePath hparts hcr)]
  exact fromBinName_eq name

/-- A file whose second line boots from a directory of the disc. -/
def slusFile : List U8 :=
  ascii "TCB = 4\r\n" ++ ascii "BOOT = cdrom:\\EXE\\slus_005.94;1\r\n" ++ ascii "EVENT = 10\r\n"

lemma bootsFrom_slusFile : BootsFrom slusFile (ascii "slus_005.94") := by
  refine ⟨[ascii "TCB = 4\r"], ascii "BOOT = cdrom:\\EXE\\slus_005.94;1\r",
    ascii "\nEVENT = 10\r\n",
    ascii "cdrom", [ascii "EXE"], ascii "1", [0x0d], rfl, ?_, by decide, ?_, ?_, by decide,
    .inr rfl⟩
  · intro l hl
    obtain rfl := List.mem_singleton.mp hl
    refine ⟨by decide, fun path hline => ?_⟩
    rw [← words_eq_iff] at hline
    have hwords : (ascii "TCB = 4\r").words isBlank = [ascii "TCB", ascii "4\r"] := rfl
    rw [hwords] at hline
    injection hline with hword
    exact absurd hword (by decide)
  · intro b hb
    obtain rfl := Option.some.inj hb
    rfl
  · exact ⟨[], ascii " = ", [], rfl, by decide, by decide, by decide, by decide⟩

theorem boot_serial_slus :
    BootsFrom slusFile (ascii "slus_005.94")
      ∧ ∃ serial, extractSerialNumber (.ok slusFile) = .ok serial
        ∧ serial.map Vector.toList = some (ascii "SLUS-00594") :=
  ⟨bootsFrom_slusFile, (boot_serial slusFile).2 _ bootsFrom_slusFile⟩

end Rustation
