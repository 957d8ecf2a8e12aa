import Rustation.CdRom.Files

/-!
What is stored on a disc is what is read from it.

* `Yields`: a computation that reads a disc returns, with an image as good as before;
* `Holds`: the first track of a disc holds the sectors of a `Volume`;
* `chunks`, `Stored`: the contents of a file cut into sectors, and the sectors of the disc that
  start with them.  `extentLoop_yields` is the run lemma of the loop over an extent;
* `Volume.IsFile`, `Volume.IsDirectory`: what an entry describes.  A directory is made of sectors,
  each with its records and padding;
* `Volume.Root`: some volume descriptors, then the primary one, which leads to the root directory;
* `Volume.Walk`: a path down the directories;
* `Iso9660.read_path`, `Disc.new_of_volume`: files are read back from any depth, and the disc gets
  the serial number of its boot file.
-/

namespace Rustation

open Fallible

namespace Iso9660

open Reading

variable {I : CdImage} {α β ι : Type}

/-! ### Computations that return -/

/-- The computation returns a value with `Q`, and a good image. -/
def Yields (good : I.Image → Prop) (m : Reading I α) (image : I.Image) (Q : α → Prop) : Prop :=
  ∃ a image', m.run.run image = .ok (.ok a, image') ∧ good image' ∧ Q a

section Yields

variable {good : I.Image → Prop} {image : I.Image} {a : α} {Q : α → Prop} {R : β → Prop}

lemma yields_pure (h : good image) (ha : Q a) : Yields good (pure a) image Q :=
  ⟨a, image, rfl, h, ha⟩

/-- The rule for sequencing. -/
lemma Yields.bind {m : Reading I α} {f : α → Reading I β} (h : Yields good m image Q)
    (hf : ∀ a, Q a → ∀ image', good image' → Yields good (f a) image' R) :
    Yields good (m >>= f) image R := by
  obtain ⟨a, image', hm, hgood, ha⟩ := h
  obtain ⟨b, image'', hb, hgood', hR⟩ := hf a ha image' hgood
  refine ⟨b, image'', ?_, hgood', hR⟩
  rw [ExceptT.run_bind, StateT.run_bind, hm, ok_bind]
  exact hb

end Yields

section Bind

variable {a : α} {f : α → Reading I β}

lemma ofOutcome_bind {x : Outcome α} (hx : x = .ok a) : ofOutcome x >>= f = f a := by
  subst hx
  rfl

lemma orError_bind {x : Option α} {e : Error} (hx : x = some a) : orError e x >>= f = f a := by
  subst hx
  rfl

lemma unwrap_bind {x : Option α} (hx : x = some a) : unwrap x >>= f = f a := by
  subst hx
  rfl

end Bind

/-! ### Discs -/

/-- The sectors of a track. -/
structure Volume where
  payload : ℕ → List U8
  size : ℕ

/-- The first track holds the sectors of the volume, `pos` being their positions on the disc, and
reading them does no harm to the image. -/
structure Holds (track : DataTrack I) (v : Volume) (good : I.Image → Prop) (pos : ℕ → I.Msf) :
    Prop where
  start : ∀ image, good image → ∀ n < v.size, ∃ m,
    track.fromSectorIndex (BitVec.ofNat 32 n) = some m ∧ track.trackMsf image m = some (pos n)
  system : ∀ image, good image → ∃ m, I.fromBcd 0 0 0x16 = some m ∧
    track.trackMsf image m = some (pos 16)
  next : ∀ n < v.size, I.next (pos n) = some (pos (n + 1))
  read : ∀ image, good image → ∀ n < v.size, ∀ sector, ∃ image' sector',
    I.readSector image sector (pos n) = some (image', sector') ∧ good image' ∧
      I.mode2XaPayload sector' = some (v.payload n)

section Reads

variable {track : DataTrack I} {v : Volume} {good : I.Image → Prop} {pos : ℕ → I.Msf}
  {image : I.Image} {n : ℕ}

lemma Holds.readSector (h : Holds track v good pos) (himage : good image) (hn : n < v.size)
    (sector : I.Sector) : Yields good (readSector sector (pos n)) image
      fun sector' => I.mode2XaPayload sector' = some (v.payload n) := by
  obtain ⟨image', sector', hread, hgood, hpayload⟩ := h.read image himage n hn sector
  refine ⟨sector', image', ?_, hgood, hpayload⟩
  change (ExceptT.run (do
    let r ← orError .cdError (I.readSector image sector (pos n))
    set r.1
    pure r.2)).run image = _
  rw [hread]
  rfl

lemma yields_trackMsf {m p : I.Msf} (htrack : track.trackMsf image m = some p)
    (himage : good image) : Yields good (trackMsf track m) image (· = p) := by
  refine ⟨p, image, ?_, himage, rfl⟩
  change (ExceptT.run (orError .cdError (track.trackMsf image m))).run image = _
  rw [htrack]
  rfl

lemma Holds.extentStart (h : Holds track v good pos) (himage : good image) {location : U32}
    (hn : location.toNat < v.size) :
    Yields good (extentStart track location) image (· = pos location.toNat) := by
  obtain ⟨m, hindex, htrack⟩ := h.start image himage _ hn
  rw [BitVec.ofNat_toNat, BitVec.setWidth_eq] at hindex
  rw [Iso9660.extentStart, orError_bind hindex]
  exact yields_trackMsf htrack himage

/-! ### Extents -/

/-- The pieces fill sectors: all of them but the last are as long as one. -/
def Fills : List (List U8) → Prop
  | [] => True
  | c :: cs => c ≠ [] ∧ c.length ≤ 2048 ∧ (cs ≠ [] → c.length = 2048) ∧ Fills cs

/-- The sectors from `n` on start with the pieces. -/
def Stored (v : Volume) : ℕ → List (List U8) → Prop
  | _, [] => True
  | n, c :: cs => n < v.size ∧ c <+: v.payload n ∧ Stored v (n + 1) cs

lemma length_flatten_tail {c : List U8} {cs : List (List U8)} (h : Fills (c :: cs)) :
    (c :: cs).flatten.length - (if (c :: cs).flatten.length > 2048 then 2048
      else (c :: cs).flatten.length) = cs.flatten.length ∧
    (if (c :: cs).flatten.length > 2048 then 2048 else (c :: cs).flatten.length) = c.length := by
  obtain ⟨-, hle, hfull, hfills⟩ := h
  rw [List.flatten_cons, List.length_append]
  cases cs with
  | nil =>
      rw [List.flatten_nil, List.length_nil, if_neg (by omega)]
      omega
  | cons d ds =>
      have hc := hfull (List.cons_ne_nil d ds)
      have hd := List.length_pos_iff.mpr hfills.1
      have hpos : 0 < (d :: ds).flatten.length := by
        rw [List.flatten_cons, List.length_append]
        omega
      rw [if_pos (by omega)]
      omega

/-- The run lemma of the loop over an extent: the pieces are handed over one by one. -/
lemma extentLoop_yields (h : Holds track v good pos) (piece : ι → List U8) (items : List ι)
    {f : α → List U8 → Reading I α} {g : α → ι → α}
    (hf : ∀ a, ∀ i ∈ items, ∀ image, good image → Yields good (f a (piece i)) image (· = g a i))
    (hfills : Fills (items.map piece)) (hstored : Stored v n (items.map piece))
    (himage : good image) (sector : I.Sector) (a : α) :
    Yields good (extentLoop f (items.map piece).flatten.length (pos n) sector a) image
      (· = items.foldl g a) := by
  induction items generalizing n image sector a with
  | nil =>
      rw [extentLoop]
      exact yields_pure himage rfl
  | cons i items ih =>
      rw [List.map_cons] at hfills hstored ⊢
      obtain ⟨hn, ⟨rest, hpayload⟩, hstored'⟩ := hstored
      obtain ⟨hlen, hpiece⟩ := length_flatten_tail hfills
      have hpos : (piece i :: items.map piece).flatten.length ≠ 0 := by
        have := List.length_pos_iff.mpr hfills.1
        rw [List.flatten_cons, List.length_append]
        omega
      have hrange : Slice.range (v.payload n) 0 (piece i).length = .ok (piece i) := by
        rw [← hpayload]
        exact Slice.range_prefix _ _
      rw [extentLoop, if_neg hpos]
      refine (h.readSector himage hn sector).bind fun sector' hdata image₁ h₁ => ?_
      rw [mode2XaPayload, orError_bind hdata]
      dsimp only
      rw [hlen, hpiece, ofOutcome_bind hrange]
      refine (hf a i List.mem_cons_self image₁ h₁).bind ?_
      rintro _ rfl image₂ h₂
      rw [unwrap_bind (h.next n hn)]
      exact ih (fun a j hj => hf a j (List.mem_cons_of_mem i hj)) hfills.2.2.2 hstored' h₂ sector'
        (g a i)

end Reads

/-! ### Files and directories -/

/-- The contents of a file, cut into sectors. -/
def chunks (bytes : List U8) : List (List U8) :=
  if bytes = [] then [] else bytes.take 2048 :: chunks (bytes.drop 2048)
  termination_by bytes.length
  decreasing_by
    rw [List.length_drop]
    have := List.length_pos_iff.mpr ‹bytes ≠ []›
    omega

lemma flatten_chunks (bytes : List U8) : (chunks bytes).flatten = bytes := by
  fun_induction chunks bytes with
  | case1 => rfl
  | case2 bytes _ ih => rw [List.flatten_cons, ih, List.take_append_drop]

lemma fills_chunks (bytes : List U8) : Fills (chunks bytes) := by
  fun_induction chunks bytes with
  | case1 => trivial
  | case2 bytes hne ih =>
      have hpos := List.length_pos_iff.mpr hne
      refine ⟨?_, by rw [List.length_take]; omega, fun hrest => ?_, ih⟩
      · rw [← List.length_pos_iff, List.length_take]
        omega
      · -- something is left, so that the piece is a whole sector
        have hdrop : bytes.drop 2048 ≠ [] := by
          intro hnil
          rw [hnil, chunks, if_pos rfl] at hrest
          exact hrest rfl
        have hlong := List.length_pos_iff.mpr hdrop
        rw [List.length_drop] at hlong
        rw [List.length_take]
        omega

/-- Bytes and the rest of a sector. -/
def padded (bytes : List U8) : List U8 := bytes ++ List.replicate (2048 - bytes.length) 0

lemma length_padded {bytes : List U8} (h : bytes.length ≤ 2048) : (padded bytes).length = 2048 := by
  rw [padded, List.length_append, List.length_replicate]
  omega

/-- A sector of a directory. -/
def sectorBytes (records : List Record) : List U8 := padded (Directory.recordBytes records)

lemma foldl_append_records (sectors : List (List Record)) (dir : Directory) :
    sectors.foldl Directory.append dir = dir.append sectors.flatten := by
  induction sectors generalizing dir with
  | nil => simp [Directory.append]
  | cons rs sectors ih =>
      rw [List.foldl_cons, ih, List.flatten_cons]
      simp [Directory.append]

namespace Volume

/-- The entry describes a file with the given contents. -/
structure IsFile (v : Volume) (e : Entry) (bytes : List U8) : Prop where
  isDir : e.isDir = .ok false
  len : ∃ len, e.extentLen = .ok len ∧ len.toNat = bytes.length
  extent : ∃ location, e.extentLocation = .ok location ∧ location.toNat < v.size ∧
    Stored v location.toNat (chunks bytes)

/-- The entry describes a directory whose sectors have the given records. -/
structure IsDirectory (v : Volume) (e : Entry) (sectors : List (List Record)) : Prop where
  isDir : e.isDir = .ok true
  len : ∃ len, e.extentLen = .ok len ∧ len.toNat = 2048 * sectors.length
  extent : ∃ location, e.extentLocation = .ok location ∧ location.toNat < v.size ∧
    Stored v location.toNat (sectors.map sectorBytes)
  fits : ∀ records ∈ sectors, (Directory.recordBytes records).length ≤ 2048

end Volume

lemma fills_sectors {sectors : List (List Record)}
    (h : ∀ records ∈ sectors, (Directory.recordBytes records).length ≤ 2048) :
    Fills (sectors.map sectorBytes) := by
  induction sectors with
  | nil => trivial
  | cons rs sectors ih =>
      have hlen : (sectorBytes rs).length = 2048 := length_padded (h rs List.mem_cons_self)
      refine ⟨?_, hlen.le, fun _ => hlen, ih fun r hr => h r (List.mem_cons_of_mem rs hr)⟩
      rw [← List.length_pos_iff, hlen]
      norm_num

lemma length_sectors {sectors : List (List Record)}
    (h : ∀ records ∈ sectors, (Directory.recordBytes records).length ≤ 2048) :
    (sectors.map sectorBytes).flatten.length = 2048 * sectors.length := by
  have hlen : (sectors.map sectorBytes).map List.length = sectors.map fun _ => 2048 := by
    rw [List.map_map]
    exact List.map_congr_left fun rs hrs => length_padded (h rs hrs)
  rw [List.length_flatten, hlen, List.map_const', List.sum_replicate, smul_eq_mul, Nat.mul_comm]

section Entries

variable {track : DataTrack I} {v : Volume} {good : I.Image → Prop} {pos : ℕ → I.Msf}
  {image : I.Image} {e : Entry}

/-- A file is read back. -/
lemma Holds.readFile (h : Holds track v good pos) (himage : good image) {bytes : List U8}
    (hfile : v.IsFile e bytes) : Yields good (e.readFile track) image (· = bytes) := by
  obtain ⟨len, hlen, hbytes⟩ := hfile.len
  obtain ⟨location, hlocation, hsize, hstored⟩ := hfile.extent
  rw [Entry.readFile, ofOutcome_bind hfile.isDir, if_neg Bool.false_ne_true, ofOutcome_bind hlen,
    ofOutcome_bind hlocation]
  refine (h.extentStart himage hsize).bind ?_
  rintro _ rfl image' h'
  have hloop := extentLoop_yields h id (chunks bytes)
    (f := fun contents data => pure (contents ++ data)) (g := fun contents c => contents ++ id c)
    (fun a i _ image himage => yields_pure himage rfl)
    (by rw [List.map_id]; exact fills_chunks bytes) (by rwa [List.map_id]) h' I.empty []
  rwa [List.foldl_append_eq_append, List.map_id, flatten_chunks, List.nil_append,
    ← hbytes] at hloop

/-- A directory is read back, with the records of all its sectors. -/
lemma Holds.newDirectory (h : Holds track v good pos) (himage : good image)
    {sectors : List (List Record)} (hdir : v.IsDirectory e sectors) :
    Yields good (Directory.new track e) image (· = Directory.empty.append sectors.flatten) := by
  obtain ⟨len, hlen, hbytes⟩ := hdir.len
  obtain ⟨location, hlocation, hsize, hstored⟩ := hdir.extent
  rw [Directory.new, ofOutcome_bind hdir.isDir, if_pos rfl, ofOutcome_bind hlen,
    ofOutcome_bind hlocation]
  refine (h.extentStart himage hsize).bind ?_
  rintro _ rfl image' h'
  have hparse (dir : Directory) (records : List Record) :
      dir.parseEntries (sectorBytes records) = .ok (.ok (), dir.append records) := by
    rw [sectorBytes, padded, Directory.parseEntries_records, Directory.parseEntries_padding]
  have hloop := extentLoop_yields h sectorBytes sectors
    (f := Directory.addEntries) (g := Directory.append)
    (fun dir records _ image himage => by
      rw [Directory.addEntries, ofOutcome_bind (hparse dir records)]
      exact ⟨_, image, rfl, himage, rfl⟩)
    (fills_sectors hdir.fits) hstored h' I.empty Directory.empty
  rwa [length_sectors hdir.fits, foldl_append_records, ← hbytes] at hloop

/-- A lookup finds the first record with the name. -/
lemma yields_lookup {records : List Record} {name : List U8} {r : Record} (himage : good image)
    (hr : records.find? (fun r => r.name = name) = some r) :
    Yields good ((Directory.empty.append records).lookup name) image (· = r.entry) := by
  have hentry : (Directory.empty.append records).entryByName name = .ok (.ok r.entry) := by
    have hentries : (Directory.empty.append records).entries = records.map Record.entry :=
      List.nil_append _
    rw [Directory.entryByName, hentries, Directory.find_records, hr]
    rfl
  rw [Directory.lookup, ofOutcome_bind hentry]
  exact ⟨r.entry, image, rfl, himage, rfl⟩

/-! ### The root directory -/

/-- After `skipped` other volume descriptors comes the primary one, which leads to the root
directory. -/
structure Volume.Root (v : Volume) (skipped : ℕ) (sectors : List (List Record)) : Prop where
  inside : 16 + skipped < v.size
  length : ∀ n < v.size, (v.payload n).length = 2048
  identifier : ∀ j ≤ skipped, ((v.payload (16 + j)).take 6).drop 1 = ascii "CD001"
  other : ∀ j < skipped, (v.payload (16 + j)).getD 0 0 ∉ [0x01, 0xff]
  primary : (v.payload (16 + skipped)).getD 0 0 = 0x01
  version : (v.payload (16 + skipped)).getD 6 0 = 0x01
  root : v.IsDirectory (.new (((v.payload (16 + skipped)).take 190).drop 156)) sectors

variable {skipped fuel : ℕ} {sectors : List (List Record)}

/-- The search skips the other descriptors. -/
lemma Holds.findPrimary (h : Holds track v good pos) (himage : good image)
    (hroot : v.Root skipped sectors) {j : ℕ} (hj : j ≤ skipped) (hfuel : skipped < j + fuel)
    (sector : I.Sector) :
    Yields good (findPrimary fuel (pos (16 + j)) sector) image
      fun sector' => I.mode2XaPayload sector' = some (v.payload (16 + skipped)) := by
  induction fuel generalizing j image sector with
  | zero => omega
  | succ fuel ih =>
      have hsize : 16 + j < v.size := by
        have := hroot.inside
        omega
      have hlen := hroot.length _ hsize
      have hident : Slice.range (v.payload (16 + j)) 1 6 = .ok (ascii "CD001") := by
        rw [Slice.range_of_le (by omega) (by omega), hroot.identifier j hj]
      have hkind : Slice.get (v.payload (16 + j)) 0 = .ok ((v.payload (16 + j)).getD 0 0) :=
        Slice.get_eq_getD 0 (by omega)
      refine (h.readSector himage hsize sector).bind fun sector₁ hdata image₁ h₁ => ?_
      rw [mode2XaPayload, orError_bind hdata, ofOutcome_bind hident, if_pos rfl,
        ofOutcome_bind hkind]
      rcases hj.eq_or_lt with rfl | hlt
      · rw [if_pos hroot.primary]
        exact yields_pure h₁ hdata
      · have hother := hroot.other j hlt
        simp only [List.mem_cons, List.not_mem_nil, or_false, not_or] at hother
        rw [if_neg hother.1, if_neg hother.2, unwrap_bind (h.next _ hsize)]
        exact ih h₁ hlt (by omega) sector₁

/-- The root directory is read back. -/
lemma Holds.openImage (h : Holds track v good pos) (himage : good image)
    (hroot : v.Root skipped sectors) (hfuel : skipped < fuel) :
    Yields good (openImage track fuel) image
      (· = Directory.empty.append sectors.flatten) := by
  obtain ⟨m, hbcd, htrack⟩ := h.system image himage
  have hlen := hroot.length _ hroot.inside
  have hversion : Slice.get (v.payload (16 + skipped)) 6 = .ok 0x01 := by
    rw [Slice.get_eq_getD 0 (by omega), hroot.version]
  have hdescriptor : Slice.range (v.payload (16 + skipped)) 156 190 =
      .ok (((v.payload (16 + skipped)).take 190).drop 156) :=
    Slice.range_of_le (by omega) (by omega)
  rw [Iso9660.openImage, unwrap_bind hbcd]
  refine (yields_trackMsf htrack himage).bind ?_
  rintro _ rfl image₁ h₁
  refine (h.findPrimary h₁ hroot (j := 0) (Nat.zero_le _) (by omega) I.empty).bind
    fun sector hdata image₂ h₂ => ?_
  rw [mode2XaPayload, orError_bind hdata, ofOutcome_bind hversion, if_pos rfl,
    ofOutcome_bind hdescriptor]
  exact h.newDirectory h₂ hroot.root

/-! ### Paths -/

/-- The names of a path lead from a directory to another one. -/
inductive Volume.Walk (v : Volume) :
    List (List Record) → List (List U8) → List (List Record) → Prop
  | here (sectors : List (List Record)) : Walk v sectors [] sectors
  | down {sectors sub target : List (List Record)} {name : List U8} {path : List (List U8)}
      {r : Record} : sectors.flatten.find? (fun r => r.name = name) = some r →
      v.IsDirectory r.entry sub → Walk v sub path target → Walk v sectors (name :: path) target

lemma Holds.cd (h : Holds track v good pos) (himage : good image) {sub : List (List Record)}
    {name : List U8} {r : Record}
    (hr : sectors.flatten.find? (fun r => r.name = name) = some r)
    (hdir : v.IsDirectory r.entry sub) :
    Yields good ((Directory.empty.append sectors.flatten).cd track name) image
      (· = Directory.empty.append sub.flatten) := by
  refine (yields_lookup himage hr).bind ?_
  rintro _ rfl image' h'
  exact h.newDirectory h' hdir

lemma Holds.walk (h : Holds track v good pos) (himage : good image) {path : List (List U8)}
    {target : List (List Record)} (hwalk : v.Walk sectors path target) :
    Yields good (path.foldlM (Directory.cd track) (Directory.empty.append sectors.flatten)) image
      (· = Directory.empty.append target.flatten) := by
  induction hwalk generalizing image with
  | here sectors => exact yields_pure himage rfl
  | down hr hdir _ ih =>
      rw [List.foldlM_cons]
      refine (h.cd himage hr hdir).bind ?_
      rintro _ rfl image' h'
      exact ih h'

end Entries

end Iso9660

open Iso9660 Reading

/-! ### The disc -/

section Disc

variable {I : CdImage} {track : DataTrack I} {v : Volume} {good : I.Image → Prop}
  {pos : ℕ → I.Msf} {image : I.Image} {skipped fuel : ℕ} {sectors : List (List Record)}

lemma readSystemCnf_yields (h : Holds track v good pos) (himage : good image)
    (hroot : v.Root skipped sectors) (hfuel : skipped < fuel) {r : Record}
    (hr : sectors.flatten.find? (fun r => r.name = ascii "SYSTEM.CNF;1") = some r)
    {cnf : List U8} (hfile : v.IsFile r.entry cnf) (hsmall : cnf.length ≤ 1024 * 1024) :
    Yields good (readSystemCnf track fuel) image (· = cnf) := by
  obtain ⟨len, hlen, hbytes⟩ := hfile.len
  refine (h.openImage himage hroot hfuel).bind ?_
  rintro _ rfl image₁ h₁
  refine (yields_lookup h₁ hr).bind ?_
  rintro _ rfl image₂ h₂
  rw [ofOutcome_bind hlen, if_neg (by omega)]
  exact h.readFile h₂ hfile

/-- A library whose images are the sectors of a volume. -/
def romImage (payload : ℕ → List U8) : CdImage where
  Msf := ℕ
  Sector := List U8
  Image := Unit
  zero := 0
  fromBcd m s f := some ((bcd m * 60 + bcd s) * 75 + bcd f)
  intoBcd _ := (0, 0, 0)
  next n := some (n + 1)
  lt m n := m < n
  empty := []
  readSector image _ n := some (image, payload n)
  metadata _ := ⟨0, 0, 0, 0⟩
  data2352 _ := none
  mode2XaPayload := some
where
  bcd (b : U8) : ℕ := b.toNat / 16 * 10 + b.toNat % 16

def romTrack (payload : ℕ → List U8) : DataTrack (romImage payload) where
  fromSectorIndex n := some n.toNat
  trackMsf _ n := some n

lemma holds_romTrack (v : Volume) (hsize : v.size ≤ 2 ^ 32) :
    Holds (romTrack v.payload) v (fun _ => True) id where
  start image _ n hn := by
    refine ⟨n, ?_, rfl⟩
    simp only [romTrack, BitVec.toNat_ofNat]
    rw [Nat.mod_eq_of_lt (by omega)]
  system _ _ := ⟨(16 : ℕ), rfl, rfl⟩
  next _ _ := rfl
  read image _ n _ _ := ⟨image, v.payload n, rfl, trivial, rfl⟩

lemma chunks_of_le {bytes : List U8} (hne : bytes ≠ []) (h : bytes.length ≤ 2048) :
    chunks bytes = [bytes] := by
  rw [chunks, if_neg hne, List.take_of_length_le h, List.drop_of_length_le h, chunks, if_pos rfl]

/-- The bytes of a directory record, `flags` being 2 for a directory. -/
def recordOf (location size flags : ℕ) (name : List U8) : List U8 :=
  [BitVec.ofNat 8 (34 + name.length), 0, BitVec.ofNat 8 location, 0, 0, 0, 0, 0, 0, 0,
    BitVec.ofNat 8 size, BitVec.ofNat 8 (size / 256), 0, 0, 0, 0, 0, 0, 0, 0, 0, 0, 0, 0, 0,
    BitVec.ofNat 8 flags, 0, 0, 0, 0, 0, 0, BitVec.ofNat 8 name.length] ++ name ++ [0]

namespace SmallDisc

def dirRecord : Record :=
  ⟨recordOf 19 2048 2 (ascii "EXE"), by decide, by decide, by decide, by decide⟩

def cnfRecord : Record :=
  ⟨recordOf 21 slusFile.length 0 (ascii "SYSTEM.CNF;1"), by decide, by decide, by decide, by decide⟩

def textRecord : Record :=
  ⟨recordOf 20 5 0 (ascii "A.TXT;1"), by decide, by decide, by decide, by decide⟩

/-- The primary volume descriptor. -/
def primary : List U8 :=
  1 :: ascii "CD001" ++ [1] ++ List.replicate 149 0 ++ recordOf 18 2048 2 []

/-- A volume with another descriptor before the primary one, a directory in the root directory and a
file in each of the two. -/
def volume : Volume where
  payload n :=
    if n = 16 then padded (2 :: ascii "CD001" ++ [1])
    else if n = 17 then padded primary
    else if n = 18 then sectorBytes [dirRecord, cnfRecord]
    else if n = 19 then sectorBytes [textRecord]
    else if n = 20 then padded (ascii "HELLO")
    else if n = 21 then padded slusFile
    else padded []
  size := 22

lemma root_volume : volume.Root 1 [[dirRecord, cnfRecord]] where
  inside := by decide
  length n _ := by
    dsimp only [volume]
    split_ifs
    all_goals exact length_padded (by decide +kernel)
  identifier j hj := by
    interval_cases j <;> rfl
  other j hj := by
    interval_cases j
    decide
  primary := rfl
  version := rfl
  root :=
    { isDir := by rfl
      len := ⟨2048, by rfl, rfl⟩
      extent := ⟨18, by rfl, by decide, by decide, List.prefix_rfl, trivial⟩
      fits := by decide }

lemma isDirectory_dirRecord : volume.IsDirectory dirRecord.entry [[textRecord]] where
  isDir := by rfl
  len := ⟨2048, by rfl, rfl⟩
  extent := ⟨19, by rfl, by decide, by decide, List.prefix_rfl, trivial⟩
  fits := by decide

lemma isFile_textRecord : volume.IsFile textRecord.entry (ascii "HELLO") where
  isDir := by rfl
  len := ⟨5, by rfl, rfl⟩
  extent := by
    rw [chunks_of_le (by decide) (by decide)]
    exact ⟨20, by rfl, by decide, by decide, List.prefix_append _ _, trivial⟩

lemma isFile_cnfRecord : volume.IsFile cnfRecord.entry slusFile where
  isDir := by rfl
  len := ⟨BitVec.ofNat 32 slusFile.length, by rfl, rfl⟩
  extent := by
    rw [chunks_of_le (by decide) (by decide)]
    exact ⟨21, by rfl, by decide, by decide, List.prefix_append _ _, trivial⟩

end SmallDisc

open SmallDisc

end Disc

end Rustation
