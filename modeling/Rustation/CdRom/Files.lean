import Rustation.CdRom.Serial

/-!
The files of the ISO9660 file system of a disc (`cdrom/iso9660.rs`), and the way from
the image of a disc to its serial number (`cdrom/disc.rs`).

* `DataTrack`: what the file system uses of the `cdimage` crate besides `CdImage`;
* `Iso9660.Reading`: computations that read a disc.  A panic stops them, an error of the file
  system is returned with the image as it was left;
* `extentLoop`: the loop over the sectors of an extent, which `Directory.new` and
  `Entry.readFile` share;
* `openImage`: the search for the primary volume descriptor, and the root directory;
* `readSystemCnf`, `Disc.new`: the boot file and the disc.
-/

namespace Rustation

open Fallible

/-- Positions of sectors in the first track of a disc. -/
structure DataTrack (I : CdImage) where
  fromSectorIndex : U32 → Option I.Msf
  /-- the position on the disc of a position in the track, `none` on an error -/
  trackMsf : I.Image → I.Msf → Option I.Msf

namespace Iso9660

/-- A computation that reads a disc. -/
abbrev Reading (I : CdImage) := ExceptT Error (StateT I.Image Outcome)

namespace Reading

variable {I : CdImage} {α : Type}

/-- What does not read the disc. -/
def ofOutcome (x : Outcome α) : Reading I α := ExceptT.lift (StateT.lift x)

/-- An error of the library, if there is no value. -/
def orError (e : Error) (x : Option α) : Reading I α := ExceptT.mk (pure (x.elim (.error e) .ok))

/-- The value, which must be there. -/
def unwrap (x : Option α) : Reading I α :=
  ofOutcome (x.elim (throw .unwrapNone) pure)

def readSector (sector : I.Sector) (msf : I.Msf) : Reading I I.Sector := do
  let image ← get
  let (image, sector) ← orError .cdError (I.readSector image sector msf)
  set image
  pure sector

def mode2XaPayload (sector : I.Sector) : Reading I (List U8) :=
  orError .cdError (I.mode2XaPayload sector)

def trackMsf (track : DataTrack I) (msf : I.Msf) : Reading I I.Msf := do
  let image ← get
  orError .cdError (track.trackMsf image msf)

end Reading

open Reading

variable {I : CdImage} {α : Type} (track : DataTrack I)

/-! ### Extents -/

/-- The loop over the sectors of an extent, `f` being what is done with the data of each. -/
def extentLoop (f : α → List U8 → Reading I α) (extentLen : ℕ) (msf : I.Msf) (sector : I.Sector)
    (a : α) : Reading I α :=
  if extentLen = 0 then pure a
  else do
    let sector ← readSector sector msf
    let data ← mode2XaPayload sector
    let len := if extentLen > 2048 then 2048 else extentLen
    let data ← ofOutcome (Slice.range data 0 len)
    let a ← f a data
    let msf ← unwrap (I.next msf)
    extentLoop f (extentLen - len) msf sector a
  termination_by extentLen
  decreasing_by
    split_ifs <;> omega

/-- The position of the first sector of an extent. -/
def extentStart (location : U32) : Reading I I.Msf := do
  let msf ← orError (.badExtent location) (track.fromSectorIndex location)
  trackMsf track msf

/-- Append the entries of a sector, or give up with the error of the parser. -/
def Directory.addEntries (dir : Directory) (data : List U8) : Reading I Directory := do
  let (result, dir) ← ofOutcome (dir.parseEntries data)
  ExceptT.mk (pure (result.map fun _ => dir))

/-- Read the directory of an entry. -/
def Directory.new (entry : Entry) : Reading I Directory := do
  let isDir ← ofOutcome entry.isDir
  if isDir then
    let extentLen ← ofOutcome entry.extentLen
    let extentLocation ← ofOutcome entry.extentLocation
    let msf ← extentStart track extentLocation
    extentLoop Directory.addEntries extentLen.toNat msf I.empty Directory.empty
  else throw .notADirectory

/-- Read the file of an entry. -/
def Entry.readFile (entry : Entry) : Reading I (List U8) := do
  let isDir ← ofOutcome entry.isDir
  if isDir then throw .notAFile
  else
    let extentLen ← ofOutcome entry.extentLen
    let extentLocation ← ofOutcome entry.extentLocation
    let msf ← extentStart track extentLocation
    extentLoop (fun contents data => pure (contents ++ data)) extentLen.toNat msf I.empty []

/-! ### Directories -/

def Directory.lookup (dir : Directory) (name : List U8) : Reading I Entry := do
  let entry ← ofOutcome (dir.entryByName name)
  ExceptT.mk (pure entry)

/-- Read a subdirectory. -/
def Directory.cd (dir : Directory) (name : List U8) : Reading I Directory := do
  let entry ← dir.lookup name
  Directory.new track entry

/-- Look for the primary volume descriptor, in at most `fuel` sectors. -/
def findPrimary : ℕ → I.Msf → I.Sector → Reading I I.Sector
  | 0, _, _ => ofOutcome (throw .outOfFuel)
  | fuel + 1, msf, sector => do
      let sector ← readSector sector msf
      let volumeDescriptor ← mode2XaPayload sector
      let identifier ← ofOutcome (Slice.range volumeDescriptor 1 6)
      if identifier = ascii "CD001" then
        let kind ← ofOutcome (Slice.get volumeDescriptor 0)
        if kind = 0x01 then pure sector
        -- the end of the descriptors
        else if kind = 0xff then throw .missingPrimaryVolumeDescriptor
        else
          let msf ← unwrap (I.next msf)
          findPrimary fuel msf sector
      else throw .badMagic

/-- Read the root directory of the disc. -/
def openImage (fuel : ℕ) : Reading I Directory := do
  let msf ← unwrap (I.fromBcd 0 0 0x16)
  let msf ← trackMsf track msf
  let sector ← findPrimary fuel msf I.empty
  let volumeDescriptor ← mode2XaPayload sector
  let version ← ofOutcome (Slice.get volumeDescriptor 6)
  if version = 0x01 then
    let rootDirDescriptor ← ofOutcome (Slice.range volumeDescriptor 156 190)
    Directory.new track (.new rootDirDescriptor)
  else throw .badVolumDescriptorVersion

end Iso9660

open Iso9660 Reading

/-! ### The disc -/

variable {I : CdImage} (track : DataTrack I)

def readSystemCnf (fuel : ℕ) : Reading I (List U8) := do
  let dir ← openImage track fuel
  let systemCnf ← dir.lookup (ascii "SYSTEM.CNF;1")
  let len ← ofOutcome systemCnf.extentLen
  if len.toNat > 1024 * 1024 then
    throw (.badFormat ("SYSTEM.CNF is too big: " ++ toString len.toNat ++ "B"))
  else systemCnf.readFile track

/-- The disc with an image, if it has a serial number. -/
def Disc.new (fuel : ℕ) (image : I.Image) : Outcome (Except String (Disc I)) := do
  let (systemCnf, image) ← (readSystemCnf track fuel).run.run image
  let serial ← extractSerialNumber systemCnf
  pure (serial.elim (.error "Couldn't find disc serial number") fun serial => .ok ⟨image, serial⟩)

end Rustation
