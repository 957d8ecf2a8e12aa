import Rustation.CdRom.State
import Rustation.Lib.Slice

/-!
The directories of the ISO9660 file system of a disc (`cdrom/iso9660.rs`).

A directory is a sequence of records of varying length.  The first byte of a record is its length,
byte 32 the length of the name that starts at byte 33.

* `Directory.parseEntries`, `Directory.entryByName`: the parser and the lookup;
* `Record`: a byte string that is a record;
* `parseEntries_records`: records are cut off the slice one by one, whatever follows them;
* `parse_records`: the round trip, with the accessors and the lookup on what has been parsed;
* `Starts`, `Cut`: what a slice can go on with after its records.  `parseEntries_tail` says what
  becomes of it, and `parse_total_iff` that a record which the end of the slice cuts off is the
  one thing that the parser does not survive.
-/

namespace Rustation

open Fallible

namespace Iso9660

inductive Error where
  /-- an error of the disc image library -/
  | cdError
  | badMagic
  | missingPrimaryVolumeDescriptor
  | badVolumDescriptorVersion
  | badExtent (location : U32)
  /-- a format error with a description of the problem -/
  | badFormat (desc : String)
  | entryNotFound
  | notADirectory
  | notAFile
  deriving DecidableEq, Repr

/-! ### Entries -/

/-- A single directory entry. -/
structure Entry where
  bytes : List U8
  deriving DecidableEq, Repr

/-- A number stored in both byte orders, of which the little-endian one is used. -/
def readU32 (v : List U8) : Outcome U32 := do
  let b0 ← Slice.get v 0
  let b1 ← Slice.get v 1
  let b2 ← Slice.get v 2
  let b3 ← Slice.get v 3
  pure (b0.setWidth 32 ||| b1.setWidth 32 <<< 8 ||| b2.setWidth 32 <<< 16 ||| b3.setWidth 32 <<< 24)

namespace Entry

def new (entry : List U8) : Entry := ⟨entry⟩

def name (e : Entry) : Outcome (List U8) := do
  let nameLen ← Slice.get e.bytes 32
  let nameEnd := 33 + nameLen.toNat
  Slice.range e.bytes 33 nameEnd

def isDir (e : Entry) : Outcome Bool := do
  let flags ← Slice.get e.bytes 25
  pure (flags &&& 0x2 != 0)

def extentLocation (e : Entry) : Outcome U32 := do
  let v ← Slice.range e.bytes 2 10
  readU32 v

def extentLen (e : Entry) : Outcome U32 := do
  let v ← Slice.range e.bytes 10 18
  readU32 v

end Entry

/-! ### Directories -/

structure Directory where
  entries : List Entry
  deriving DecidableEq, Repr

namespace Directory

def empty : Directory := ⟨[]⟩

def push (dir : Directory) (e : Entry) : Directory := ⟨dir.entries ++ [e]⟩

/-- Append the entries of a slice.  The entries before a format error stay in the directory. -/
def parseEntries (dir : Directory) (raw : List U8) : Outcome (Except Error Unit × Directory) :=
  match raw with
  | [] => pure (.ok (), dir)
  | first :: rest =>
      let dirLen := first.toNat
      -- the end of the directory
      if dirLen = 0 then pure (.ok (), dir)
      else if dirLen < 34 then
        pure (.error (.badFormat ("Directory entry too short (" ++ toString dirLen ++ ")")), dir)
      else do
        let nameLen ← Slice.get (first :: rest) 32
        let nameEnd := 33 + nameLen.toNat
        if nameEnd > dirLen then pure (.error (.badFormat "Entry name too long"), dir)
        else
          let entry ← Slice.range (first :: rest) 0 dirLen
          parseEntries (dir.push (.new entry)) ((first :: rest).drop dirLen)
  termination_by raw.length
  decreasing_by
    rw [List.length_drop, List.length_cons]
    omega

/-- The first entry with the name. -/
def find (name : List U8) : List Entry → Outcome (Option Entry)
  | [] => pure none
  | e :: es => do
      let n ← e.name
      if n = name then pure (some e) else find name es

def entryByName (dir : Directory) (name : List U8) : Outcome (Except Error Entry) := do
  match ← find name dir.entries with
  | some e => pure (.ok e)
  | none => pure (.error .entryNotFound)

end Directory

/-! ### Records -/

/-- A byte string whose first byte is its length, with a name that fits. -/
structure Record where
  bytes : List U8
  long : 34 ≤ bytes.length
  short : bytes.length ≤ 255
  first : (bytes.getD 0 0).toNat = bytes.length
  fits : 33 + (bytes.getD 32 0).toNat ≤ bytes.length

namespace Record

def entry (r : Record) : Entry := .new r.bytes

/-- The bytes from 33 on, as many as byte 32 says. -/
def name (r : Record) : List U8 := (r.bytes.drop 33).take (r.bytes.getD 32 0).toNat

variable (r : Record)

lemma get_nameLen (rest : List U8) :
    Slice.get (r.bytes ++ rest) 32 = .ok (r.bytes.getD 32 0) := by
  have hlong := r.long
  have happend : 32 < (r.bytes ++ rest).length := by
    rw [List.length_append]
    omega
  rw [Slice.get_eq_getD 0 happend, List.getD_append _ _ _ _ (by omega)]

/-- A record with what follows it has the length of the record in front. -/
lemma exists_cons : ∃ first rest, r.bytes = first :: rest ∧ first.toNat = r.bytes.length := by
  have hlong := r.long
  obtain ⟨first, rest, hcons⟩ := List.exists_cons_of_length_pos (l := r.bytes) (by omega)
  refine ⟨first, rest, hcons, ?_⟩
  rw [← r.first, hcons]
  rfl

lemma entry_name : r.entry.name = .ok r.name := by
  have hlen := r.get_nameLen []
  have hfits := r.fits
  rw [List.append_nil] at hlen
  rw [Entry.name, entry, Entry.new, hlen, ok_bind, Slice.range_of_le (by omega) hfits, name,
    List.drop_take]
  simp

lemma entry_isDir : ∃ d, r.entry.isDir = .ok d := by
  have hlong : 25 < r.bytes.length := by
    have := r.long
    omega
  refine ⟨r.bytes[25] &&& 0x2 != 0, ?_⟩
  rw [Entry.isDir, entry, Entry.new, Slice.get_of_lt hlong, ok_bind, pure_eq_ok]

end Record

lemma readU32_of_le {v : List U8} (h : 4 ≤ v.length) : ∃ n, readU32 v = .ok n := by
  have hget {i : ℕ} (hi : i < 4) : Slice.get v i = .ok (v.getD i 0) :=
    Slice.get_eq_getD 0 (by omega)
  rw [readU32, hget (by norm_num), ok_bind, hget (by norm_num), ok_bind, hget (by norm_num),
    ok_bind,
    hget (by norm_num), ok_bind]
  exact ⟨_, rfl⟩

namespace Record

variable (r : Record)

/-- A number of a record. -/
lemma exists_readU32 (start : ℕ) (h : start + 8 ≤ 34) :
    ∃ n, (do let v ← Slice.range r.bytes start (start + 8); readU32 v) = .ok n := by
  have hlong := r.long
  have hlen : 4 ≤ ((r.bytes.take (start + 8)).drop start).length := by
    rw [List.length_drop, List.length_take]
    omega
  obtain ⟨n, hn⟩ := readU32_of_le hlen
  refine ⟨n, ?_⟩
  rw [Slice.range_of_le (by omega) (by omega), ok_bind, hn]

lemma entry_extentLocation : ∃ n, r.entry.extentLocation = .ok n :=
  r.exists_readU32 2 (by norm_num)

lemma entry_extentLen : ∃ n, r.entry.extentLen = .ok n :=
  r.exists_readU32 10 (by norm_num)

end Record

namespace Directory

variable {dir : Directory} {records : List Record} {tail : List U8}

/-- The bytes of records, one after the other. -/
def recordBytes (records : List Record) : List U8 := records.flatMap Record.bytes

/-- The directory with more records. -/
def append (dir : Directory) (records : List Record) : Directory :=
  ⟨dir.entries ++ records.map Record.entry⟩

/-- One record is cut off the slice. -/
lemma parseEntries_record (dir : Directory) (r : Record) (rest : List U8) :
    parseEntries dir (r.bytes ++ rest) = parseEntries (dir.push r.entry) rest := by
  have hname := r.get_nameLen rest
  have hrange : Slice.range (r.bytes ++ rest) 0 r.bytes.length = .ok r.bytes :=
    Slice.range_prefix r.bytes rest
  have hdrop : (r.bytes ++ rest).drop r.bytes.length = rest := List.drop_left
  obtain ⟨first, body, hcons, hfirst⟩ := r.exists_cons
  have hlong := r.long
  have hfits := r.fits
  have hraw : r.bytes ++ rest = first :: (body ++ rest) := by rw [hcons, List.cons_append]
  rw [hraw] at hname hrange hdrop ⊢
  rw [parseEntries]
  simp only [hfirst]
  rw [if_neg (by omega), if_neg (by omega), hname, ok_bind, if_neg (by omega), hrange, ok_bind,
    hdrop]
  rfl

/-- All the records in front of a slice are cut off. -/
lemma parseEntries_records (dir : Directory) (records : List Record) (tail : List U8) :
    parseEntries dir (recordBytes records ++ tail) = parseEntries (dir.append records) tail := by
  induction records generalizing dir with
  | nil => simp [recordBytes, append]
  | cons r rs ih =>
      have hpush : (dir.push r.entry).append rs = dir.append (r :: rs) := by
        simp [push, append]
      rw [recordBytes, List.flatMap_cons, List.append_assoc, parseEntries_record, ← hpush]
      exact ih (dir.push r.entry)

/-- Padding ends the directory. -/
lemma parseEntries_padding (dir : Directory) (n : ℕ) :
    parseEntries dir (List.replicate n 0) = .ok (.ok (), dir) := by
  cases n with
  | zero =>
      rw [List.replicate_zero, parseEntries, pure_eq_ok]
  | succ n =>
      rw [List.replicate_succ, parseEntries]
      exact if_pos rfl

lemma find_records (name : List U8) (records : List Record) :
    find name (records.map Record.entry)
      = .ok ((records.find? fun r => r.name = name).map Record.entry) := by
  induction records with
  | nil => rfl
  | cons r rs ih =>
      rw [List.map_cons, find, r.entry_name, ok_bind, List.find?_cons]
      by_cases h : r.name = name
      · simp [h]
      · simp [h, ih]

/-- **The round trip.**  Records followed by padding are appended to the directory in order.  Every
accessor of an entry stays in range, the name of an entry is the one of its record, and a lookup
finds the first record with the name. -/
theorem parse_records (records : List Record) (n : ℕ) :
    (∀ dir, parseEntries dir (recordBytes records ++ List.replicate n 0)
        = .ok (.ok (), dir.append records))
      ∧ (∀ r ∈ records, r.entry.name = .ok r.name ∧ (∃ d, r.entry.isDir = .ok d)
        ∧ (∃ loc, r.entry.extentLocation = .ok loc) ∧ ∃ len, r.entry.extentLen = .ok len)
      ∧ ∀ name, entryByName (empty.append records) name
        = .ok (match records.find? fun r => r.name = name with
          | some r => .ok r.entry
          | none => .error .entryNotFound) := by
  refine ⟨fun dir => ?_, fun r _ => ?_, fun name => ?_⟩
  · rw [parseEntries_records, parseEntries_padding]
  · exact ⟨r.entry_name, r.entry_isDir, r.entry_extentLocation, r.entry_extentLen⟩
  · have hentries : (empty.append records).entries = records.map Record.entry := List.nil_append _
    rw [entryByName, hentries, find_records, ok_bind]
    cases records.find? fun r => r.name = name with
    | none => rfl
    | some r => rfl

/-! ### Every slice -/

/-- The slice goes on with a record. -/
def Starts (tail : List U8) : Prop := ∃ (r : Record) (rest : List U8), tail = r.bytes ++ rest

/-- The slice goes on with a record that its end cuts off, and that is not refused for its name:
either the length of the name is cut off as well, or the name fits the record. -/
def Cut (tail : List U8) : Prop :=
  34 ≤ (tail.getD 0 0).toNat ∧ tail.length < (tail.getD 0 0).toNat
    ∧ (32 < tail.length → 33 + (tail.getD 32 0).toNat ≤ (tail.getD 0 0).toNat)

instance (tail : List U8) : Decidable (Cut tail) :=
  inferInstanceAs (Decidable (34 ≤ _ ∧ _ ∧ (_ → _)))

/-- The slice goes on with a record whose length runs past its end. -/
def Truncated (tail : List U8) : Prop := tail ≠ [] ∧ tail.length < (tail.getD 0 0).toNat

/-- A slice that has room for the record it goes on with, and whose name fits, starts with it. -/
lemma starts_of_fits (hlong : 34 ≤ (tail.getD 0 0).toNat)
    (hlen : (tail.getD 0 0).toNat ≤ tail.length)
    (hfits : 33 + (tail.getD 32 0).toNat ≤ (tail.getD 0 0).toNat) : Starts tail := by
  have htake : (tail.take (tail.getD 0 0).toNat).length = (tail.getD 0 0).toNat := by
    rw [List.length_take, Nat.min_eq_left hlen]
  have hget {i : ℕ} (hi : i < (tail.getD 0 0).toNat) :
      (tail.take (tail.getD 0 0).toNat).getD i 0 = tail.getD i 0 := by
    rw [List.getD_eq_getElem?_getD, List.getElem?_take_of_lt hi, ← List.getD_eq_getElem?_getD]
  refine ⟨⟨tail.take (tail.getD 0 0).toNat, ?_, ?_, ?_, ?_⟩, tail.drop (tail.getD 0 0).toNat, ?_⟩
  · rw [htake]
    exact hlong
  · rw [htake]
    exact Nat.le_of_lt_succ (tail.getD 0 0).isLt
  · rw [htake, hget (by omega)]
  · rw [htake, hget (by omega)]
    exact hfits
  · exact (List.take_append_drop _ _).symm

/-- A slice is made of records and of a tail that does not go on with one. -/
lemma exists_records (raw : List U8) :
    ∃ records tail, raw = recordBytes records ++ tail ∧ ¬Starts tail := by
  induction h : raw.length using Nat.strong_induction_on generalizing raw with
  | _ n ih =>
      by_cases hstarts : Starts raw
      · obtain ⟨r, rest, rfl⟩ := hstarts
        have hlong := r.long
        rw [List.length_append] at h
        obtain ⟨records, tail, hrest, htail⟩ := ih rest.length (by omega) rest rfl
        refine ⟨r :: records, tail, ?_, htail⟩
        rw [hrest, recordBytes, recordBytes, List.flatMap_cons, List.append_assoc]
      · exact ⟨[], raw, rfl, hstarts⟩

/-- What becomes of a tail: the end of the directory, a format error, or a read outside of the
slice. -/
lemma parseEntries_tail (dir : Directory) (hstops : ¬Starts tail) :
    (tail.getD 0 0 = 0 ∧ parseEntries dir tail = .ok (.ok (), dir))
      ∨ (Cut tail ∧ parseEntries dir tail = .error .outOfBounds)
      ∨ (tail.getD 0 0 ≠ 0 ∧ ¬Cut tail
        ∧ ∃ desc, parseEntries dir tail = .ok (.error (.badFormat desc), dir)) := by
  cases tail with
  | nil =>
      refine .inl ⟨rfl, ?_⟩
      rw [parseEntries, pure_eq_ok]
  | cons first rest =>
      have hfirst : (first :: rest).getD 0 0 = first := rfl
      rw [parseEntries]
      simp only [hfirst]
      by_cases hzero : first.toNat = 0
      · rw [if_pos hzero]
        exact .inl ⟨BitVec.eq_of_toNat_eq hzero, rfl⟩
      have hne : first ≠ 0 := fun h => hzero (congrArg BitVec.toNat h)
      rw [if_neg hzero]
      by_cases hshort : first.toNat < 34
      · rw [if_pos hshort]
        refine .inr (.inr ⟨hne, fun hcut => ?_, _, rfl⟩)
        exact absurd hcut.1 (by rw [hfirst]; omega)
      rw [if_neg hshort]
      by_cases hname : 32 < (first :: rest).length
      · rw [Slice.get_eq_getD 0 hname, ok_bind]
        by_cases hfits : 33 + ((first :: rest).getD 32 0).toNat > first.toNat
        · rw [if_pos hfits]
          refine .inr (.inr ⟨hne, fun hcut => ?_, _, rfl⟩)
          exact absurd (hcut.2.2 hname) (by rw [hfirst]; omega)
        · rw [if_neg hfits]
          -- the record would be complete if it were not cut off
          have hlen : (first :: rest).length < first.toNat := by
            by_contra hlen
            exact hstops (starts_of_fits (Nat.le_of_not_lt hshort) (Nat.le_of_not_lt hlen)
              (Nat.le_of_not_lt hfits))
          rw [Slice.range_of_lt hlen, error_bind]
          exact .inr (.inl ⟨⟨Nat.le_of_not_lt hshort, hlen, fun _ => Nat.le_of_not_lt hfits⟩, rfl⟩)
      · have hnone : (first :: rest)[32]? = none :=
          List.getElem?_eq_none (Nat.le_of_not_lt hname)
        rw [Slice.get_of_none hnone, error_bind]
        refine .inr (.inl ⟨⟨Nat.le_of_not_lt hshort, ?_, fun h => absurd h hname⟩, rfl⟩)
        rw [hfirst]
        omega

/-- The parser returns, with success or a format error, and it reports a record that the end of
the slice cuts off. -/
def Total (raw : List U8) : Prop :=
  ∀ dir, ∃ result dir', parseEntries dir raw = .ok (result, dir')
    ∧ (result = .ok () ∨ ∃ desc, result = .error (.badFormat desc))
    ∧ ∀ records tail, raw = recordBytes records ++ tail → Truncated tail → result ≠ .ok ()

/-- A cut off record does not start with a record. -/
lemma Truncated.not_starts (h : Truncated tail) : ¬Starts tail := by
  rintro ⟨r, rest, rfl⟩
  obtain ⟨first, body, hcons, hfirst⟩ := r.exists_cons
  have hlt := h.2
  rw [List.length_append, hcons, List.cons_append, List.getD_cons_zero, hfirst, hcons] at hlt
  omega

lemma Cut.truncated (h : Cut tail) : Truncated tail := by
  refine ⟨?_, h.2.1⟩
  rintro rfl
  exact absurd h.1 (by decide)

/-- **Corrupt directories.**  The parser is total on a slice exactly when the slice does not go on,
after some records, with one that its end cuts off and whose name length does not give it away. -/
theorem parse_total_iff (raw : List U8) :
    Total raw ↔ ∀ records tail, raw = recordBytes records ++ tail → ¬Cut tail := by
  constructor
  · intro h records tail hraw hcut
    obtain ⟨result, dir', hparse, -⟩ := h empty
    rw [hraw, parseEntries_records] at hparse
    rcases parseEntries_tail (empty.append records) hcut.truncated.not_starts with
      ⟨hzero, -⟩ | ⟨-, herror⟩ | ⟨-, hnot, -⟩
    · exact absurd hcut.1 (by rw [hzero]; decide)
    · rw [herror] at hparse
      cases hparse
    · exact hnot hcut
  · intro h dir
    obtain ⟨records, tail, hraw, hstops⟩ := exists_records raw
    rw [hraw, parseEntries_records]
    rcases parseEntries_tail (dir.append records) hstops with
      ⟨hzero, hok⟩ | ⟨hcut, -⟩ | ⟨hne, -, desc, herror⟩
    · refine ⟨.ok (), _, hok, .inl rfl, fun records' tail' heq htrunc => ?_⟩
      -- the same slice cannot be parsed to its end and be cut off
      have hparse := hok
      rw [← parseEntries_records, heq, parseEntries_records] at hparse
      rcases parseEntries_tail (dir.append records') htrunc.not_starts with
        ⟨hzero', -⟩ | ⟨hcut', -⟩ | ⟨-, -, desc, herror⟩
      · exact absurd htrunc.2 (by rw [hzero']; exact Nat.not_lt_zero _)
      · exact absurd hcut' (h records' tail' (hraw.trans heq))
      · rw [herror] at hparse
        cases hparse
    · exact absurd hcut (h records tail hraw)
    · exact ⟨_, _, herror, .inr ⟨desc, rfl⟩, fun _ _ _ _ => nofun⟩

/-- A single byte that announces a record. -/
theorem parse_not_total : ¬∀ raw : List U8, raw.length ≤ 2048 → Total raw := by
  intro h
  have hcut : Cut [34] := by decide
  obtain ⟨result, dir', hparse, -⟩ := h [34] (by decide) empty
  rcases parseEntries_tail empty hcut.truncated.not_starts with
    ⟨hzero, -⟩ | ⟨-, herror⟩ | ⟨-, hnot, -⟩
  · exact absurd hzero (by decide)
  · rw [herror] at hparse
    cases hparse
  · exact hnot hcut

end Directory

end Iso9660

end Rustation
