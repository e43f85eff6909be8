/-
The target address. The widget keeps it in an editable combo box only: the edit text, the current item and the
items, which every discovery throws away and builds anew. Over these stands what the user chose last; the
operations of the box answer with it as long as no text is taken for the item beside it.
-/
import Gocator.Lib.Run
import Gocator.Lib.Strip
import Gocator.Lib.Substring

namespace Gocator.Widget

/-! ## Texts -/

/-- `QChar::isSpace`: the separators of Unicode, and the control characters that count as blanks. -/
def isSpace (c : Char) : Bool :=
  (0x09 ≤ c.toNat && c.toNat ≤ 0x0D) || (0x2000 ≤ c.toNat && c.toNat ≤ 0x200A) ||
    [0x20, 0x85, 0xA0, 0x1680, 0x2028, 0x2029, 0x202F, 0x205F, 0x3000].contains c.toNat

/-- `QString::trimmed`. -/
def trimmed (s : String) : String := String.ofList (Strip.strip isSpace s.toList)

theorem trimmed_trimmed (s : String) : trimmed (trimmed s) = trimmed s := by
  unfold trimmed
  rw [String.toList_ofList, Strip.strip_strip]

theorem mem_trimmed {s : String} {c : Char} (hc : c ∈ s.toList) (h : isSpace c = false) : c ∈ (trimmed s).toList := by
  unfold trimmed
  rw [String.toList_ofList]
  exact Strip.mem_strip hc h

/-- A device that the discovery has found. -/
structure DeviceInfo where
  address : String
  model : String := ""
  serial : String := ""
  isVirtual : Bool := false
deriving DecidableEq, Repr

/-- The loop over the spellings of the brand: the first that occurs in the model is replaced. -/
def replaceBrand (displayName : List Char) : Option (List Char) :=
  ["Gocator ", "gocator ", "Gocator", "gocator"].findSome? fun target =>
    (Substring.find target.toList displayName).map fun pos =>
      Substring.replace pos target.length "G".toList displayName

def formatDeviceName (model serial address : String) (isVirtual : Bool) : String :=
  if model = "" ∨ model = "Unknown" then
    if isVirtual then "Unknown (Virtual) - " ++ address else "Unknown - " ++ address
  else
    let displayName := match replaceBrand model.toList with
      | some name => String.ofList name
      | none => if model.toList.head?.any Char.isDigit then "G" ++ model else model
    let serialStr := if isVirtual then "Virtual" else if serial = "" ∨ serial = "0" then "0" else serial
    displayName ++ " (" ++ serialStr ++ ") - " ++ address

/-- The text of the item for a device. -/
def DeviceInfo.displayText (d : DeviceInfo) : String := formatDeviceName d.model d.serial d.address d.isVirtual

theorem dash_mem_displayText (d : DeviceInfo) : '-' ∈ d.displayText.toList := by
  unfold DeviceInfo.displayText formatDeviceName
  split
  · split <;> simp
  · simp

/-- A text without a dash is not taken for an item. -/
theorem ne_trimmed_displayText {s : String} (h : '-' ∉ s.toList) (d : DeviceInfo) : s ≠ trimmed d.displayText := by
  rintro rfl
  exact h (mem_trimmed (dash_mem_displayText d) (by decide))

/-! ## The combo box -/

/-- An item of the combo box: what it shows, and the address behind it. -/
structure ComboItem where
  text : String
  data : String
deriving DecidableEq, Repr

/-- An editable `QComboBox`. -/
structure IpCombo where
  items : List ComboItem := []
  currentIndex : Option Nat := none
  editText : String := ""
deriving DecidableEq, Repr

namespace IpCombo

def itemText (c : IpCombo) (i : Nat) : String := (c.items[i]?.map (·.text)).getD ""

def itemData (c : IpCombo) (i : Nat) : String := (c.items[i]?.map (·.data)).getD ""

def clear (_ : IpCombo) : IpCombo := {}

def setCurrentIndex (c : IpCombo) (i : Nat) : IpCombo := { c with currentIndex := some i, editText := c.itemText i }

/-- The current item stays. -/
def setEditText (c : IpCombo) (text : String) : IpCombo := { c with editText := text }

/-- The first item of an empty box becomes the current one. -/
def addItem (c : IpCombo) (text data : String) : IpCombo :=
  let c' := { c with items := c.items ++ [⟨text, data⟩] }
  if c.items = [] then c'.setCurrentIndex 0 else c'

def findData (c : IpCombo) (data : String) : Option Nat := c.items.findIdx? (·.data = data)

end IpCombo

/-! ## The widget's use of it -/

def ipAddress (c : IpCombo) : String :=
  let currentText := trimmed c.editText
  match c.currentIndex with
  | some i =>
    if currentText = trimmed (c.itemText i) then
      let selectedAddress := trimmed (c.itemData i)
      if selectedAddress = "" then currentText else selectedAddress
    else currentText
  | none => currentText

/-- An editable box takes `setCurrentText` as `setEditText`. -/
def setIpAddress (c : IpCombo) (ip : String) : IpCombo :=
  match c.findData ip with
  | some i => c.setCurrentIndex i
  | none => c.setEditText ip

def addDevices (c : IpCombo) (devices : List DeviceInfo) : IpCombo :=
  devices.foldl (fun c d => c.addItem d.displayText d.address) c

def applyDiscoveredDevices (c : IpCombo) (devices : List DeviceInfo) : IpCombo :=
  let currentAddress := ipAddress c
  if devices = [] then c.clear.setEditText (if currentAddress = "" then "192.168.1.10" else currentAddress)
  else
    let c' := addDevices c.clear devices
    if currentAddress = "" then c'
    else
      match c'.findData currentAddress with
      | some i => c'.setCurrentIndex i
      | none => c'.setEditText currentAddress

def setDiscoveredDevices (c : IpCombo) (shuttingDown : Bool) (devices : List DeviceInfo) : IpCombo :=
  if shuttingDown then c else applyDiscoveredDevices c devices

/-- What the user and the application do with the address. -/
inductive AddressOperation where
  | selectItem (i : Nat)
  | editText (text : String)
  | setIpAddress (ip : String)
  | setDiscoveredDevices (devices : List DeviceInfo)
deriving DecidableEq, Repr

/-- Only an item that is there can be selected. -/
def addressStep (c : IpCombo) : AddressOperation → Option IpCombo
  | .selectItem i => if i < c.items.length then some (c.setCurrentIndex i) else none
  | .editText text => some (c.setEditText text)
  | .setIpAddress ip => some (setIpAddress c ip)
  | .setDiscoveredDevices devices => some (setDiscoveredDevices c false devices)

/-! ## What the user chose -/

/-- The chosen address, and the devices there are to choose from. -/
structure Target where
  choice : String := ""
  devices : List DeviceInfo := []
deriving DecidableEq, Repr

/-- A discovery keeps a choice; where there is none, it chooses the first device. -/
def Target.discovered (t : Target) (devices : List DeviceInfo) : Target :=
  { choice := if t.choice = "" then (devices.head?.map (·.address)).getD "192.168.1.10" else t.choice, devices }

/-- `given` is what `setIpAddress` makes of its argument. -/
def Target.step (given : String → String) (t : Target) : AddressOperation → Option Target
  | .selectItem i => t.devices[i]?.map fun d => { t with choice := d.address }
  | .editText text => some { t with choice := trimmed text }
  | .setIpAddress ip => some { t with choice := given ip }
  | .setDiscoveredDevices devices => some (t.discovered devices)

/-- After every operation the widget answers with the chosen address. -/
def FollowsChoice (given : String → String) (ops : List AddressOperation) : Prop :=
  ∀ k, ((ops.take k).foldlM addressStep {}).map ipAddress =
    ((ops.take k).foldlM (Target.step given) {}).map (·.choice)

def AddressOperation.devices : AddressOperation → List DeviceInfo
  | .setDiscoveredDevices devices => devices
  | _ => []

/-- The texts that may come to stand in the edit field without their item: what is typed, what is given, and
addresses. -/
def AddressOperation.texts : AddressOperation → List String
  | .selectItem _ => []
  | .editText text => [text]
  | .setIpAddress ip => [ip]
  | .setDiscoveredDevices devices => devices.map (·.address)

/-- Addresses of devices without blanks around them, and no text that reads like an item. -/
structure Distinct (ops : List AddressOperation) : Prop where
  address : ∀ op ∈ ops, ∀ d ∈ op.devices, d.address ≠ "" ∧ trimmed d.address = d.address
  text : ∀ op ∈ ops, ∀ op' ∈ ops, ∀ s ∈ op.texts, ∀ d ∈ op'.devices, trimmed s ≠ trimmed d.displayText

/-! ## What the box answers -/

section

variable {c : IpCombo}

theorem IpCombo.itemText_of_getElem? {i : Nat} {item : ComboItem} (hi : c.items[i]? = some item) :
    c.itemText i = item.text := by
  rw [IpCombo.itemText, hi]
  rfl

theorem IpCombo.itemData_of_getElem? {i : Nat} {item : ComboItem} (hi : c.items[i]? = some item) :
    c.itemData i = item.data := by
  rw [IpCombo.itemData, hi]
  rfl

/-- A text that reads like the current item answers with the item's address. -/
theorem ipAddress_of_current {i : Nat} {item : ComboItem} (hcur : c.currentIndex = some i)
    (hi : c.items[i]? = some item) (htext : trimmed c.editText = trimmed item.text) (hdata : trimmed item.data ≠ "") :
    ipAddress c = trimmed item.data := by
  unfold ipAddress
  rw [hcur]
  dsimp only
  rw [IpCombo.itemText_of_getElem? hi, IpCombo.itemData_of_getElem? hi, if_pos htext, if_neg hdata]

/-- A text that reads like no item answers for itself. -/
theorem ipAddress_of_apart (h : ∀ item ∈ c.items, trimmed c.editText ≠ trimmed item.text) :
    ipAddress c = trimmed c.editText := by
  unfold ipAddress
  cases c.currentIndex with
  | none => rfl
  | some i =>
    dsimp only
    cases hi : c.items[i]? with
    | some item =>
      rw [IpCombo.itemText_of_getElem? hi, if_neg (h item (List.mem_of_getElem? hi))]
    | none =>
      have hval : trimmed (c.itemData i) = "" := by rw [IpCombo.itemData, hi]; rfl
      rw [hval, if_pos rfl, ite_self]

theorem ipAddress_setCurrentIndex {i : Nat} {item : ComboItem} (hi : c.items[i]? = some item)
    (hdata : trimmed item.data ≠ "") : ipAddress (c.setCurrentIndex i) = trimmed item.data := by
  have htext : (c.setCurrentIndex i).editText = item.text := IpCombo.itemText_of_getElem? hi
  exact ipAddress_of_current rfl hi (by rw [htext]) hdata

theorem ipAddress_setEditText {text : String} (h : ∀ item ∈ c.items, trimmed text ≠ trimmed item.text) :
    ipAddress (c.setEditText text) = trimmed text :=
  ipAddress_of_apart (c := c.setEditText text) h

/-- An address that an item has is found at an item that has it. -/
theorem IpCombo.findData_some {data : String} {i : Nat} (h : c.findData data = some i) :
    ∃ item, c.items[i]? = some item ∧ item.data = data := by
  obtain ⟨hi, hdata, -⟩ := List.findIdx?_eq_some_iff_getElem.1 h
  exact ⟨c.items[i], List.getElem?_eq_getElem hi, by simpa using hdata⟩

/-- The widget looks an address up and falls back to the edit field, in `setIpAddress` and after a discovery. -/
theorem ipAddress_setIpAddress {ip : String} (hdata : ∀ item ∈ c.items, trimmed item.data ≠ "")
    (h : ∀ item ∈ c.items, trimmed ip ≠ trimmed item.text) : ipAddress (setIpAddress c ip) = trimmed ip := by
  unfold setIpAddress
  cases hfind : c.findData ip with
  | none => exact ipAddress_setEditText h
  | some i =>
    obtain ⟨item, hi, rfl⟩ := IpCombo.findData_some hfind
    exact ipAddress_setCurrentIndex hi (hdata item (List.mem_of_getElem? hi))

end

/-! ## A discovery -/

/-- The item for a device. -/
def DeviceInfo.item (d : DeviceInfo) : ComboItem := ⟨d.displayText, d.address⟩

theorem addDevices_of_ne_nil : ∀ (devices : List DeviceInfo) (c : IpCombo), c.items ≠ [] →
    addDevices c devices = { c with items := c.items ++ devices.map DeviceInfo.item }
  | [], c, _ => by simp [addDevices]
  | d :: devices, c, h => by
    have hadd : c.addItem d.displayText d.address = { c with items := c.items ++ [d.item] } := if_neg h
    have hrest := addDevices_of_ne_nil devices { c with items := c.items ++ [d.item] } (by simp)
    show addDevices (c.addItem d.displayText d.address) devices = _
    rw [hadd, hrest]
    simp

/-- The first device becomes the current item. -/
theorem addDevices_clear (c : IpCombo) (d : DeviceInfo) (devices : List DeviceInfo) :
    addDevices c.clear (d :: devices) =
      ({ items := (d :: devices).map DeviceInfo.item } : IpCombo).setCurrentIndex 0 := by
  have hfirst : c.clear.addItem d.displayText d.address =
      { items := [d.item], currentIndex := some 0, editText := d.displayText } := rfl
  show addDevices (c.clear.addItem d.displayText d.address) devices = _
  rw [hfirst, addDevices_of_ne_nil devices _ (by simp)]
  rfl

theorem items_setIpAddress (c : IpCombo) (ip : String) : (setIpAddress c ip).items = c.items := by
  unfold setIpAddress
  split <;> rfl

/-- A discovery that finds devices puts the address back as `setIpAddress` does. -/
theorem applyDiscoveredDevices_cons (c : IpCombo) (d : DeviceInfo) (devices : List DeviceInfo) :
    applyDiscoveredDevices c (d :: devices) =
      if ipAddress c = "" then addDevices c.clear (d :: devices)
      else setIpAddress (addDevices c.clear (d :: devices)) (ipAddress c) := by
  unfold applyDiscoveredDevices
  rw [if_neg (List.cons_ne_nil d devices)]
  rfl

/-! ## The simulation -/

/-- Devices whose addresses have no blanks around them, none of which reads like one of the devices. -/
structure Separate (all : List DeviceInfo) : Prop where
  nonempty : ∀ d ∈ all, d.address ≠ ""
  trimmed : ∀ d ∈ all, Widget.trimmed d.address = d.address
  apart : ∀ d ∈ all, ∀ d' ∈ all, d.address ≠ Widget.trimmed d'.displayText

/-- The box answers with the choice, and its items are the devices; the choice has no blanks around it and reads
like no device in `all`, of which the devices are some. -/
structure Shows (all : List DeviceInfo) (c : IpCombo) (t : Target) : Prop where
  items : c.items = t.devices.map DeviceInfo.item
  known : ∀ d ∈ t.devices, d ∈ all
  address : ipAddress c = t.choice
  trimmed : Widget.trimmed t.choice = t.choice
  apart : ∀ d ∈ all, t.choice ≠ Widget.trimmed d.displayText

theorem shows_start (all : List DeviceInfo) : Shows all {} {} where
  items := rfl
  known := fun _ h => absurd h List.not_mem_nil
  address := rfl
  trimmed := rfl
  apart := fun d _ => ne_trimmed_displayText (by decide) d

section

variable {all : List DeviceInfo} {c : IpCombo} {t : Target}

/-- The items are those of known devices. -/
theorem forall_items (hitems : c.items = t.devices.map DeviceInfo.item) (hknown : ∀ d ∈ t.devices, d ∈ all)
    {P : ComboItem → Prop} (h : ∀ d ∈ all, P d.item) : ∀ item ∈ c.items, P item := by
  intro item hmem
  rw [hitems] at hmem
  obtain ⟨d, hd, rfl⟩ := List.mem_map.1 hmem
  exact h d (hknown d hd)

theorem Separate.data (h : Separate all) : ∀ d ∈ all, Widget.trimmed d.item.data ≠ "" := by
  intro d hd
  show Widget.trimmed d.address ≠ ""
  rw [h.trimmed d hd]
  exact h.nonempty d hd

theorem Shows.selectItem (hall : Separate all) (h : Shows all c t) {i : Nat} {d : DeviceInfo}
    (hd : t.devices[i]? = some d) : Shows all (c.setCurrentIndex i) { t with choice := d.address } := by
  have hmem : d ∈ all := h.known d (List.mem_of_getElem? hd)
  have hi : c.items[i]? = some d.item := by rw [h.items, List.getElem?_map, hd]; rfl
  exact {
    items := h.items
    known := h.known
    address := (ipAddress_setCurrentIndex hi (hall.data d hmem)).trans (hall.trimmed d hmem)
    trimmed := hall.trimmed d hmem
    apart := hall.apart d hmem }

theorem Shows.editText (h : Shows all c t) {text : String}
    (htext : ∀ d ∈ all, Widget.trimmed text ≠ Widget.trimmed d.displayText) :
    Shows all (c.setEditText text) { t with choice := Widget.trimmed text } where
  items := h.items
  known := h.known
  address := ipAddress_setEditText (forall_items h.items h.known htext)
  trimmed := trimmed_trimmed text
  apart := htext

theorem Shows.setIpAddress (hall : Separate all) (h : Shows all c t) {ip : String}
    (hip : ∀ d ∈ all, Widget.trimmed ip ≠ Widget.trimmed d.displayText) :
    Shows all (setIpAddress c ip) { t with choice := Widget.trimmed ip } where
  items := (items_setIpAddress c ip).trans h.items
  known := h.known
  address := ipAddress_setIpAddress (forall_items h.items h.known hall.data) (forall_items h.items h.known hip)
  trimmed := trimmed_trimmed ip
  apart := hip

/-- Nothing is left to choose from, and the address stays in the edit field. -/
theorem Shows.discover_nil (h : Shows all c t) : Shows all (applyDiscoveredDevices c []) (t.discovered []) := by
  have hstart : Shows all c.clear {} := shows_start all
  have hempty : applyDiscoveredDevices c [] =
      c.clear.setEditText (if t.choice = "" then "192.168.1.10" else t.choice) := by
    rw [← h.address]
    rfl
  rw [hempty, Target.discovered]
  split
  · exact hstart.editText fun d _ => ne_trimmed_displayText (by decide) d
  · have hedit := hstart.editText (by rw [h.trimmed]; exact h.apart)
    rw [h.trimmed] at hedit
    exact hedit

/-- A new box shows its first device. -/
theorem Shows.addDevices (hall : Separate all) {d : DeviceInfo} {devices : List DeviceInfo}
    (hknown : ∀ d' ∈ d :: devices, d' ∈ all) :
    Shows all (addDevices c.clear (d :: devices)) ⟨d.address, d :: devices⟩ := by
  have hmem : d ∈ all := hknown d List.mem_cons_self
  have hfirst : ({ items := (d :: devices).map DeviceInfo.item } : IpCombo).items[0]? = some d.item := rfl
  rw [addDevices_clear]
  exact {
    items := rfl
    known := hknown
    address := (ipAddress_setCurrentIndex hfirst (hall.data d hmem)).trans (hall.trimmed d hmem)
    trimmed := hall.trimmed d hmem
    apart := hall.apart d hmem }

/-- The first device is chosen, or the earlier choice is put back over it. -/
theorem Shows.discover_cons (hall : Separate all) (h : Shows all c t) {d : DeviceInfo} {devices : List DeviceInfo}
    (hknown : ∀ d' ∈ d :: devices, d' ∈ all) :
    Shows all (applyDiscoveredDevices c (d :: devices)) (t.discovered (d :: devices)) := by
  have hnew : Shows all (Widget.addDevices c.clear (d :: devices)) ⟨d.address, d :: devices⟩ :=
    Shows.addDevices hall hknown
  rw [applyDiscoveredDevices_cons, h.address, Target.discovered]
  split
  · exact hnew
  · have hback := hnew.setIpAddress hall (by rw [h.trimmed]; exact h.apart)
    rw [h.trimmed] at hback
    exact hback

/-- Every operation leaves the box with the choice. -/
theorem Shows.step (hall : Separate all) (h : Shows all c t) (op : AddressOperation)
    (htexts : ∀ s ∈ op.texts, ∀ d ∈ all, Widget.trimmed s ≠ Widget.trimmed d.displayText)
    (hknown : ∀ d ∈ op.devices, d ∈ all) :
    Option.Rel (Shows all) (addressStep c op) (t.step Widget.trimmed op) := by
  cases op with
  | selectItem i =>
    have hlength : c.items.length = t.devices.length := by rw [h.items, List.length_map]
    simp only [addressStep, Target.step, hlength]
    split
    · rename_i hi
      rw [List.getElem?_eq_getElem hi]
      exact .some (h.selectItem hall (List.getElem?_eq_getElem hi))
    · rename_i hi
      rw [List.getElem?_eq_none (Nat.le_of_not_lt hi)]
      exact .none
  | editText text => exact .some (h.editText (htexts text List.mem_cons_self))
  | setIpAddress ip => exact .some (h.setIpAddress hall (htexts ip List.mem_cons_self))
  | setDiscoveredDevices devices =>
    refine .some ?_
    cases devices with
    | nil => exact h.discover_nil
    | cons d devices => exact h.discover_cons hall hknown

end

/-- The addresses of a run are texts of the run. -/
theorem Distinct.separate {ops : List AddressOperation} (h : Distinct ops) :
    Separate (ops.flatMap AddressOperation.devices) where
  nonempty := by
    intro d hd
    obtain ⟨op, hop, hmem⟩ := List.mem_flatMap.1 hd
    exact (h.address op hop d hmem).1
  trimmed := by
    intro d hd
    obtain ⟨op, hop, hmem⟩ := List.mem_flatMap.1 hd
    exact (h.address op hop d hmem).2
  apart := by
    intro d hd d' hd'
    obtain ⟨op, hop, hmem⟩ := List.mem_flatMap.1 hd
    obtain ⟨op', hop', hmem'⟩ := List.mem_flatMap.1 hd'
    have htext : d.address ∈ op.texts := by
      cases op with
      | setDiscoveredDevices devices => exact List.mem_map_of_mem hmem
      | _ => cases hmem
    rw [← (h.address op hop d hmem).2]
    exact h.text op hop op' hop' _ htext d' hmem'

/-- With addresses and texts that read like no item, the widget's address is what was chosen last, whatever the
order of selections, edits, calls and discoveries. -/
theorem ipAddress_followsChoice (ops : List AddressOperation) (h : Distinct ops) : FollowsChoice trimmed ops := by
  intro k
  have hrel : Option.Rel (Shows (ops.flatMap AddressOperation.devices)) ((ops.take k).foldlM addressStep {})
      ((ops.take k).foldlM (Target.step trimmed) {}) := by
    refine Transition.foldlM_rel (fun op hop c t hshows => ?_) (shows_start _)
    have hmem : op ∈ ops := List.mem_of_mem_take hop
    refine hshows.step h.separate op (fun s hs d hd => ?_) fun d hd => List.mem_flatMap.2 ⟨op, hmem, hd⟩
    obtain ⟨op', hop', hd'⟩ := List.mem_flatMap.1 hd
    exact h.text op hmem op' hop' s hs d hd'
  exact Transition.map_eq_of_rel hrel fun c t hshows => hshows.address

/-- Two devices are found, the second is selected, a text with a blank is typed over it, the first is given and
nothing is found any more. -/
theorem ipAddress_followsChoice_session : FollowsChoice trimmed
    [.setDiscoveredDevices [⟨"192.168.1.10", "Gocator 2500", "12345", false⟩, ⟨"192.168.1.11", "2600", "", true⟩],
      .selectItem 1, .editText " 10.20.30.40", .setIpAddress "192.168.1.10", .setDiscoveredDevices []] :=
  ipAddress_followsChoice _ ⟨by decide, by decide⟩

/-- `setIpAddress` with a blank in front; a device whose address reads like the item of another; a text that
reads like an item but for the blanks. -/
theorem ipAddress_taken_for_item : ¬ FollowsChoice id [.setIpAddress " 10.0.0.1"] ∧
    ¬ FollowsChoice trimmed [.setDiscoveredDevices [⟨"Unknown - x", "Gocator 2500", "", false⟩],
      .setDiscoveredDevices [⟨"x", "", "", false⟩]] ∧
    ¬ FollowsChoice trimmed [.setDiscoveredDevices [⟨"x", "", "", false⟩], .editText " Unknown - x"] := by
  refine ⟨fun h => ?_, fun h => ?_, fun h => ?_⟩
  · exact absurd (h 1) (by decide)
  · exact absurd (h 2) (by decide)
  · exact absurd (h 2) (by decide)

end Gocator.Widget
