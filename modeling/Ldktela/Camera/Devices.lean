import Mathlib.Data.List.Nodup
import Ldktela.Lib.Unique

/-!
# The cameras of the machine

`list_cameras` and `device_key` of `desktop/src-tauri/src/camera/mod.rs`, and
`counterpart` of `camera/dshow.rs`.  Media Foundation and DirectShow enumerate the same
machine; what identifies a camera in both is the key cut out of its device path, and a
camera without a path is known by its name.

The two functions also compare the names of cameras that have a key.  `merges_iff` says
for which machines that hides no camera and opens no other one.
-/

namespace Ldktela
namespace Camera

/-- One camera as the picker shows it; `id` is the symbolic link of Media Foundation, or
the moniker of DirectShow. -/
structure CameraDevice where
  id : List Char
  name : List Char
deriving DecidableEq

/-- One camera as DirectShow names it. -/
structure Device where
  moniker : List Char
  name : List Char
  /-- The device path, when this is a physical device. -/
  path : Option (List Char)
deriving DecidableEq

/-- The text without `start`, if it begins with it. -/
def stripStart (start text : List Char) : Option (List Char) :=
  if start.isPrefixOf text then some (text.drop start.length) else none

/-- What comes before the last `c`. -/
def beforeLast (c : Char) (text : List Char) : Option (List Char) :=
  match text.reverse.dropWhile fun d => d ≠ c with
  | [] => none
  | _ :: rest => some rest.reverse

/-- The part of a device path that identifies the hardware instance. -/
def deviceKey (raw : List Char) : Option (List Char) :=
  let lower := raw.map Char.toLower
  let path := (stripStart "@device:pnp:".toList lower).getD lower
  match beforeLast '#' path with
  | none => none
  -- at least two segments, or this is not a device path at all
  | some key => if '#' ∈ key then some key else none

namespace Device

def key (device : Device) : Option (List Char) :=
  device.path.bind deviceKey

def toCamera (device : Device) : CameraDevice :=
  ⟨device.moniker, device.name⟩

end Device

def CameraDevice.key (device : CameraDevice) : Option (List Char) :=
  deviceKey device.id

/-- Media Foundation lists the device already. -/
def already (native : List CameraDevice) (device : Device) : Bool :=
  device.key.any (fun key => (native.filterMap CameraDevice.key).contains key) ||
    (native.map CameraDevice.name).contains device.name

/-- Lists every camera on the machine: what the two enumerations list, merged. -/
def listCameras (native : List CameraDevice) (direct : List Device) : List CameraDevice :=
  direct.foldl
    (fun devices device => if already native device then devices else devices ++ [device.toCamera])
    native

/-- The friendly name Media Foundation gives the device, if it still has it. -/
def nameOf (native : List CameraDevice) (deviceId : List Char) : Option (List Char) :=
  (native.find? fun device => device.id = deviceId).map CameraDevice.name

/-- The only device of the name, if there is exactly one. -/
def onlyNamed (direct : List Device) (name : List Char) : Option Device :=
  match direct.filter fun device => device.name = name with
  | [] => none
  | first :: rest => if rest.isEmpty then some first else none

/-- The DirectShow device that `counterpart` settles on. -/
def counterpartDevice (native : List CameraDevice) (direct : List Device)
    (mfId : List Char) : Option Device :=
  match (deviceKey mfId).bind fun key => direct.find? fun device => device.key = some key with
  | some found => some found
  | none => (nameOf native mfId).bind (onlyNamed direct)

/-- The DirectShow moniker for a camera Media Foundation named but would not open. -/
def counterpart (native : List CameraDevice) (direct : List Device) (mfId : List Char) :
    Option (List Char) :=
  (counterpartDevice native direct mfId).map Device.moniker

/-! ## What is listed -/

/-- The DirectShow devices that are added to the list. -/
def added (native : List CameraDevice) (direct : List Device) : List Device :=
  direct.filter fun device => !already native device

theorem listCameras_eq (native : List CameraDevice) (direct : List Device) :
    listCameras native direct = native ++ (added native direct).map Device.toCamera := by
  have hfold : ∀ devices : List CameraDevice, direct.foldl
      (fun devices device =>
        if already native device then devices else devices ++ [device.toCamera]) devices =
      devices ++ (added native direct).map Device.toCamera := by
    unfold added
    induction direct with
    | nil => exact fun devices => (List.append_nil devices).symm
    | cons device direct ih =>
        intro devices
        rw [List.foldl_cons, ih, List.filter_cons]
        cases already native device with
        | true => rfl
        | false => simp
  exact hfold native

section Listed

variable {native : List CameraDevice} {direct : List Device} {device : Device}
  {camera : CameraDevice} {key : List Char}

theorem already_iff : already native device = true ↔
    (∃ key, device.key = some key ∧ ∃ camera ∈ native, camera.key = some key) ∨
      ∃ camera ∈ native, camera.name = device.name := by
  simp only [already, Bool.or_eq_true, Option.any_eq_true, List.contains_iff_mem,
    List.mem_filterMap, List.mem_map]

theorem mem_added : device ∈ added native direct ↔
    device ∈ direct ∧
      (∀ key, device.key = some key → ∀ camera ∈ native, camera.key ≠ some key) ∧
        ∀ camera ∈ native, camera.name ≠ device.name := by
  rw [added, List.mem_filter, Bool.not_eq_true', ← Bool.not_eq_true, already_iff]
  simp only [not_or, not_exists, not_and, ne_eq]

/-- No two devices of the list have one key. -/
theorem nodup_keys_listed (hnative : (native.filterMap CameraDevice.key).Nodup)
    (hdirect : (direct.filterMap Device.key).Nodup) :
    (native.filterMap CameraDevice.key ++
      (added native direct).filterMap Device.key).Nodup := by
  rw [List.nodup_append]
  refine ⟨hnative, hdirect.sublist (List.filter_sublist.filterMap _), ?_⟩
  intro a ha b hb heq
  obtain ⟨camera, hcamera, hkey⟩ := List.mem_filterMap.mp ha
  obtain ⟨device, hdevice, hkey'⟩ := List.mem_filterMap.mp hb
  exact (mem_added.mp hdevice).2.1 b hkey' camera hcamera (heq ▸ hkey)

theorem onlyNamed_eq_some_iff {name : List Char} : onlyNamed direct name = some device ↔
    (direct.filter fun device => device.name = name) = [device] := by
  unfold onlyNamed
  split
  · next hnil => simp [hnil]
  · next first rest hfilter =>
      rw [hfilter]
      cases rest with
      | nil => simp
      | cons second rest => simp

end Listed

/-! ## The merge -/

/-- The list hides no device that only DirectShow knows, names none twice, and no other
camera is opened instead of the one that was picked. -/
structure Merges (native : List CameraDevice) (direct : List Device) : Prop where
  listed : listCameras native direct = native ++ (added native direct).map Device.toCamera
  native_listed : ∀ camera ∈ native, camera ∈ listCameras native direct
  direct_listed : ∀ device ∈ direct, ∀ key, device.key = some key →
    (∀ camera ∈ native, camera.key ≠ some key) → device ∈ added native direct
  nodup_keys : (native.filterMap CameraDevice.key ++
    (added native direct).filterMap Device.key).Nodup
  counterpart_key : ∀ mfId key, deviceKey mfId = some key →
    ∀ device, counterpartDevice native direct mfId = some device →
      ∀ key', device.key = some key' → key' = key

section Merge

variable {native : List CameraDevice} {direct : List Device} {device : Device}
  {camera : CameraDevice} {key : List Char}

theorem nameOf_eq (hkeys : (native.filterMap CameraDevice.key).Nodup)
    (hcamera : camera ∈ native) (hkey : camera.key = some key) :
    nameOf native camera.id = some camera.name := by
  have hone : Unique.AtMostOne (fun device : CameraDevice => device.id = camera.id) native := by
    intro a ha b hb ha' hb'
    rw [decide_eq_true_eq] at ha' hb'
    have hkeyOf : ∀ other : CameraDevice, other.id = camera.id → other.key = some key :=
      fun other hid => (congrArg deviceKey hid).trans hkey
    exact Unique.eq_of_nodup_filterMap hkeys ha hb (hkeyOf a ha') (hkeyOf b hb')
  rw [nameOf, (Unique.find?_eq_some_iff hone).mpr ⟨hcamera, by simp⟩]
  rfl

theorem find?_key_eq_none_iff :
    (direct.find? fun device => device.key = some key) = none ↔
      ∀ device ∈ direct, device.key ≠ some key := by
  simp only [List.find?_eq_none, decide_eq_true_eq]

/-- A camera whose hardware DirectShow does not know is looked up by its name. -/
theorem counterpartDevice_of_unknown (hkeys : (native.filterMap CameraDevice.key).Nodup)
    (hcamera : camera ∈ native) (hkey : camera.key = some key)
    (hunknown : ∀ device ∈ direct, device.key ≠ some key) :
    counterpartDevice native direct camera.id = onlyNamed direct camera.name := by
  have hfound : (deviceKey camera.id).bind
      (fun key => direct.find? fun device => device.key = some key) = none := by
    rw [show deviceKey camera.id = some key from hkey, Option.bind_some,
      find?_key_eq_none_iff]
    exact hunknown
  rw [counterpartDevice, hfound, nameOf_eq hkeys hcamera hkey]
  rfl

/-- The merge is right exactly when no device that only DirectShow knows shares its name
with one of Media Foundation, and no device with a key is alone in DirectShow under the
name of another one. -/
theorem merges_iff (native : List CameraDevice) (direct : List Device)
    (hnative : (native.filterMap CameraDevice.key).Nodup)
    (hdirect : (direct.filterMap Device.key).Nodup) :
    Merges native direct ↔
      (∀ device ∈ direct, ∀ key, device.key = some key →
        (∀ camera ∈ native, camera.key ≠ some key) →
          ∀ camera ∈ native, camera.name ≠ device.name) ∧
      ∀ camera ∈ native, ∀ key, camera.key = some key →
        (∀ device ∈ direct, device.key ≠ some key) →
          ∀ device, (direct.filter fun d => d.name = camera.name) = [device] →
            device.key = none := by
  constructor
  · intro h
    constructor
    · intro device hdevice key hkey hnew
      exact (mem_added.mp (h.direct_listed device hdevice key hkey hnew)).2.2
    · intro camera hcamera key hkey hunknown device honly
      have hmem : device ∈ direct.filter fun d => d.name = camera.name := by
        rw [honly]
        exact List.mem_singleton_self device
      -- it is found by its name, as nothing has its key
      have hcounterpart : counterpartDevice native direct camera.id = some device := by
        rw [counterpartDevice_of_unknown hnative hcamera hkey hunknown]
        exact onlyNamed_eq_some_iff.mpr honly
      cases hkey' : device.key with
      | none => rfl
      | some key' =>
          have hsame := h.counterpart_key camera.id key hkey device hcounterpart key' hkey'
          rw [hsame] at hkey'
          exact absurd hkey' (hunknown device (List.mem_filter.mp hmem).1)
  · rintro ⟨hnames, halone⟩
    refine ⟨listCameras_eq native direct, ?_, ?_, nodup_keys_listed hnative hdirect, ?_⟩
    · intro camera hcamera
      rw [listCameras_eq]
      exact List.mem_append_left _ hcamera
    · intro device hdevice key hkey hnew
      refine mem_added.mpr ⟨hdevice, fun key' hkey' => ?_, hnames device hdevice key hkey hnew⟩
      obtain rfl := Option.some.inj (hkey.symm.trans hkey')
      exact hnew
    · intro mfId key hkey device hcounterpart key' hkey'
      unfold counterpartDevice at hcounterpart
      rw [hkey, Option.bind_some] at hcounterpart
      split at hcounterpart
      · -- the one with the key comes first, and the name is not asked
        next found hfound =>
          obtain rfl := Option.some.inj hcounterpart
          have hsame : found.key = some key := by simpa using List.find?_some hfound
          exact Option.some.inj (hkey'.symm.trans hsame)
      · next hunknown =>
          rw [find?_key_eq_none_iff] at hunknown
          obtain ⟨name, hname, honly⟩ := Option.bind_eq_some_iff.mp hcounterpart
          obtain ⟨camera, hcamera, rfl⟩ := Option.map_eq_some_iff.mp hname
          have hid : camera.id = mfId := by simpa using List.find?_some hcamera
          have hcameraKey : camera.key = some key := by
            rw [CameraDevice.key, hid]
            exact hkey
          have hnone := halone camera (List.mem_of_find?_eq_some hcamera) key hcameraKey
            hunknown device (onlyNamed_eq_some_iff.mp honly)
          rw [hnone] at hkey'
          cases hkey'

end Merge

/-- One webcam both enumerations know, and a virtual camera that only DirectShow does. -/
theorem merges_iff_droidcam :
    let native : List CameraDevice :=
      [⟨"\\\\?\\usb#vid_1#6&a#e5\\global".toList, "Webcam".toList⟩]
    let direct : List Device :=
      [⟨"@device:pnp:\\\\?\\usb#vid_1#6&a#65\\global".toList, "Webcam".toList,
          some "\\\\?\\usb#vid_1#6&a#65\\global".toList⟩,
        ⟨"@device:sw:86\\1".toList, "DroidCam".toList, none⟩]
    Merges native direct ∧ (listCameras native direct).length = 2 := by
  intro native direct
  have hnames : ∀ device ∈ direct, ∀ camera ∈ native,
      device.key = camera.key ∨ camera.name ≠ device.name := by decide
  have hknown : ∀ camera ∈ native, ∃ device ∈ direct, device.key = camera.key := by decide
  refine ⟨(merges_iff native direct (by decide) (by decide)).mpr ⟨?_, ?_⟩, by decide⟩
  · intro device hdevice key hkey hnew camera hcamera
    rcases hnames device hdevice camera hcamera with hsame | hne
    · exact absurd (hsame.symm.trans hkey) (hnew camera hcamera)
    · exact hne
  · intro camera hcamera key hkey hunknown
    obtain ⟨device, hdevice, hsame⟩ := hknown camera hcamera
    exact absurd (hsame.trans hkey) (hunknown device hdevice)

/-- Two webcams of one model, of which Media Foundation names one and DirectShow the
other: the second is not listed, and it is what the first is opened with. -/
theorem not_merges_twins :
    let native : List CameraDevice :=
      [⟨"\\\\?\\usb#vid_1#6&a#e5\\global".toList, "Webcam".toList⟩]
    let direct : List Device :=
      [⟨"@device:pnp:\\\\?\\usb#vid_1#6&b#65\\global".toList, "Webcam".toList,
        some "\\\\?\\usb#vid_1#6&b#65\\global".toList⟩]
    (native.filterMap CameraDevice.key).Nodup ∧ (direct.filterMap Device.key).Nodup ∧
      ¬ Merges native direct := by
  intro native direct
  refine ⟨by decide, by decide, fun h => ?_⟩
  have hnone : added native direct = [] := by decide
  have hnew : ∀ camera ∈ native, ∀ device ∈ direct, camera.key ≠ device.key := by decide
  have hkeyed : ∀ device ∈ direct, device.key.isSome = true := by decide
  have hmem : direct.head (by decide) ∈ direct := List.head_mem _
  obtain ⟨key, hkey⟩ := Option.isSome_iff_exists.mp (hkeyed _ hmem)
  have hadded := h.direct_listed _ hmem key hkey fun camera hcamera hsame =>
    hnew camera hcamera _ hmem (hsame.trans hkey.symm)
  rw [hnone] at hadded
  cases hadded

end Camera
end Ldktela
