import Mathlib.Tactic.Ring
import RvSim.Devices.Layout

/-!
# Stores that fail on a later byte

A store is made byte by byte, and there is no way back: the bytes before the one that is refused stay
stored. Only the transmit register of the UART, and the end of a memory or of the timer, let a store leave a
trace of it.

## Main definitions

* `MappedDevice`: the devices of a machine, each laid out as it is made
* `MappedDevice.Torn`: a store that leaves a trace when it fails

## Main results

* `failed_store_unchanged_iff`: a store or a write beat that fails leaves everything as it was if and only
  if it is not torn
* `torn_transmit`: a word store to the transmit register fails and transmits
-/

namespace RvSim

open ByteStores ByteContents MemoryMap

/-- A device of a machine. -/
inductive MappedDevice
  | ram (ram : Laid Ram)
  | uart (uart : Laid SimpleUart)
  | timer (timer : Laid MachineTimer)
  | dma (dma : Laid DmaController)
  | blockDevice (device : Laid BlockDevice)
  | interruptController (controller : Laid InterruptController)

namespace MappedDevice

instance : Addressable MappedDevice where
  load8 device addr :=
    match device with
    | ram inner => (Addressable.load8 inner addr).map id ram
    | uart inner => (Addressable.load8 inner addr).map id uart
    | timer inner => (Addressable.load8 inner addr).map id timer
    | dma inner => (Addressable.load8 inner addr).map id dma
    | blockDevice inner => (Addressable.load8 inner addr).map id blockDevice
    | interruptController inner => (Addressable.load8 inner addr).map id interruptController
  store8 device addr value :=
    match device with
    | ram inner => (Addressable.store8 inner addr value).map id ram
    | uart inner => (Addressable.store8 inner addr value).map id uart
    | timer inner => (Addressable.store8 inner addr value).map id timer
    | dma inner => (Addressable.store8 inner addr value).map id dma
    | blockDevice inner => (Addressable.store8 inner addr value).map id blockDevice
    | interruptController inner => (Addressable.store8 inner addr value).map id interruptController
  tick
    | ram inner => ram (Addressable.tick inner)
    | uart inner => uart (Addressable.tick inner)
    | timer inner => timer (Addressable.tick inner)
    | dma inner => dma (Addressable.tick inner)
    | blockDevice inner => blockDevice (Addressable.tick inner)
    | interruptController inner => interruptController (Addressable.tick inner)
  machineTime
    | timer inner => Addressable.machineTime inner
    | _ => none
  pendingInterrupts
    | ram inner => Addressable.pendingInterrupts inner
    | uart inner => Addressable.pendingInterrupts inner
    | timer inner => Addressable.pendingInterrupts inner
    | dma inner => Addressable.pendingInterrupts inner
    | blockDevice inner => Addressable.pendingInterrupts inner
    | interruptController inner => Addressable.pendingInterrupts inner

/-- The access goes past the end of a device, and stores some other byte than what is there in front of
the end. -/
def PastEnd {D : Type} [Addressable D] [ByteContents D] (device : D) (addr : Address) (bytes : List U8) :
    Prop :=
  (∃ i < bytes.length, refuses device (addr + BitVec.ofNat 64 i)) ∧
    ∃ j byte, bytes[j]? = some byte ∧ (∀ i ≤ j, ¬ refuses device (addr + BitVec.ofNat 64 i)) ∧
      content device (addr + BitVec.ofNat 64 j) ≠ byte

/-- A store that leaves a trace when it fails: one wider than a byte to the transmit register, or one past
the end of a memory or of the timer. -/
def Torn : MappedDevice → Address → List U8 → Prop
  | ram inner, addr, bytes => PastEnd inner addr bytes
  | timer inner, addr, bytes => PastEnd inner addr bytes
  | uart inner, addr, bytes => inner.1.range.contains addr ∧
    addr - inner.1.range.start = SimpleUart.txOffset ∧ 1 < bytes.length
  | _, _, _ => False

/-- The bytes of a store reach the device that is mapped. -/
theorem storeBytesFrom_map {D : Type} [Addressable D] (mapped : D → MappedDevice)
    (hmapped : ∀ device addr value, Addressable.store8 (mapped device) addr value =
      (Addressable.store8 device addr value).map id mapped) (device : D) (addr : Address) (offset : Nat)
    (bytes : List U8) : storeBytesFrom (mapped device) addr offset bytes =
      (storeBytesFrom device addr offset bytes).map id mapped := by
  induction bytes generalizing device offset with
  | nil => rfl
  | cons byte bytes ih =>
    conv_lhs => unfold storeBytesFrom
    conv_rhs => unfold storeBytesFrom
    rw [hmapped]
    rcases Addressable.store8 device (addr + BitVec.ofNat 64 offset) byte with ⟨_ | _, after⟩
    · rfl
    · exact ih after (offset + 1)

/-- A store that fails changes a device that holds bytes if and only if it goes past the end with another
byte. -/
theorem unchanged_iff_contents {D : Type} [Addressable D] [ByteContents D] (device : D) (addr : Address)
    {bytes : List U8} (hwidth : bytes.length ≤ 4) :
    ((∃ error, (storeBytesFrom device addr 0 bytes).1 = .error error) →
      (storeBytesFrom device addr 0 bytes).2 = device) ↔ ¬ PastEnd device addr bytes := by
  rw [storeBytesFrom_fails_iff, storeBytesFrom_eq_iff _ _ _ (by omega)]
  simp only [Nat.zero_add]
  constructor
  · rintro hsame ⟨hfails, j, byte, hj, haccepted, hne⟩
    exact hne (hsame hfails j byte hj haccepted)
  · intro hnot hfails j byte hj haccepted
    by_contra hne
    exact hnot ⟨hfails, j, byte, hj, haccepted, hne⟩

/-- A store to the UART that fails. -/
theorem unchanged_iff_uart (uart : Laid SimpleUart) (addr : Address) (bytes : List U8) :
    ((∃ error, (storeBytesFrom uart addr 0 bytes).1 = .error error) →
      (storeBytesFrom uart addr 0 bytes).2 = uart) ↔ ¬ (uart.1.range.contains addr ∧
        addr - uart.1.range.start = SimpleUart.txOffset ∧ 1 < bytes.length) := by
  rcases bytes with _ | ⟨byte, bytes⟩
  · exact iff_of_true (fun _ => rfl) fun h => absurd h.2.2 (Nat.not_lt_zero 1)
  have hzero : addr + BitVec.ofNat 64 0 = addr := BitVec.add_zero addr
  by_cases hrefused : refuses uart addr
  · obtain ⟨error, herror⟩ := storeBytesFrom_refused byte bytes (by rwa [hzero])
    rw [herror]
    refine iff_of_true (fun _ => rfl) fun h => ?_
    change (!uart.1.range.contains addr || !(addr - uart.1.range.start == _ || _)) = true at hrefused
    rw [h.1, h.2.1] at hrefused
    exact absurd hrefused (by decide)
  · rw [storeBytesFrom_accepted byte bytes (by rwa [hzero]), hzero]
    change ¬ (!uart.1.range.contains addr || !(addr - uart.1.range.start == SimpleUart.txOffset ||
      addr - uart.1.range.start == SimpleUart.statusOffset)) = true at hrefused
    simp only [Bool.or_eq_true, Bool.not_eq_true', not_or, Bool.not_eq_false, beq_iff_eq] at hrefused
    obtain ⟨hin, hoffset⟩ := hrefused
    -- The byte behind a register is refused.
    have hnext (after : Laid SimpleUart) (hafter : refuses after = refuses uart) :
        refuses after (addr + BitVec.ofNat 64 (0 + 1)) := by
      rw [hafter]
      change (!uart.1.range.contains _ || !(addr + BitVec.ofNat 64 (0 + 1) - uart.1.range.start == _ ||
        addr + BitVec.ofNat 64 (0 + 1) - uart.1.range.start == _)) = true
      rw [show addr + BitVec.ofNat 64 (0 + 1) - uart.1.range.start =
        addr - uart.1.range.start + BitVec.ofNat 64 (0 + 1) by ring]
      rcases hoffset with htx | hstatus
      · rw [htx]
        exact Bool.or_true _
      · rw [hstatus]
        exact Bool.or_true _
    have hstore : uart.1.store8 addr byte = (.ok (), if addr - uart.1.range.start = SimpleUart.txOffset then
        { uart.1 with txBuffer := uart.1.txBuffer ++ [byte] } else uart.1) := by
      unfold SimpleUart.store8 SimpleUart.offset
      rw [if_pos hin]
      dsimp only
      split
      · rfl
      · rename_i htx
        rw [if_pos (hoffset.resolve_left htx)]
    have hsame := refuses_store8 uart addr byte
    rcases bytes with _ | ⟨byte', bytes⟩
    · exact iff_of_true (fun h => absurd h (by rintro ⟨error, ⟨⟩⟩)) fun h => absurd h.2.2 (Nat.lt_irrefl 1)
    · obtain ⟨error, herror⟩ := storeBytesFrom_refused byte' bytes (hnext _ hsame)
      rw [herror]
      by_cases htx : addr - uart.1.range.start = SimpleUart.txOffset
      · refine iff_of_false (fun h => ?_) fun h => h ⟨hin, htx, by simp⟩
        have hbuffer := congrArg (fun uart : Laid SimpleUart => uart.1.txBuffer.length) (h ⟨error, rfl⟩)
        change (uart.1.store8 addr byte).2.txBuffer.length = _ at hbuffer
        rw [hstore, if_pos htx, List.length_append] at hbuffer
        exact absurd hbuffer (Nat.succ_ne_self _)
      · refine iff_of_true (fun _ => Subtype.ext ?_) fun h => htx h.2.1
        show (uart.1.store8 addr byte).2 = uart.1
        rw [hstore, if_neg htx]

/-- A store that fails leaves the device as it was if and only if it is not torn. -/
theorem unchanged_iff (device : MappedDevice) (addr : Address) {bytes : List U8} (hwidth : bytes.length ≤ 4) :
    ((∃ error, (storeBytesFrom device addr 0 bytes).1 = .error error) →
      (storeBytesFrom device addr 0 bytes).2 = device) ↔ ¬ device.Torn addr bytes := by
  have hquiet {D : Type} [Addressable D] [ByteStores D] [QuietStores D] (inner : D) :
      (∃ error, (storeBytesFrom inner addr 0 bytes).1 = .error error) →
        (storeBytesFrom inner addr 0 bytes).2 = inner :=
    storeBytesFrom_quiet inner addr 0 bytes hwidth
  cases device with
  | ram inner =>
    rw [storeBytesFrom_map ram (fun _ _ _ => rfl)]
    exact Iff.trans (by simp) (unchanged_iff_contents inner addr hwidth)
  | timer inner =>
    rw [storeBytesFrom_map timer (fun _ _ _ => rfl)]
    exact Iff.trans (by simp) (unchanged_iff_contents inner addr hwidth)
  | uart inner =>
    rw [storeBytesFrom_map uart (fun _ _ _ => rfl)]
    exact Iff.trans (by simp) (unchanged_iff_uart inner addr bytes)
  | dma inner =>
    rw [storeBytesFrom_map dma (fun _ _ _ => rfl)]
    exact iff_of_true (fun h => congrArg dma (hquiet inner h)) not_false
  | blockDevice inner =>
    rw [storeBytesFrom_map blockDevice (fun _ _ _ => rfl)]
    exact iff_of_true (fun h => congrArg blockDevice (hquiet inner h)) not_false
  | interruptController inner =>
    rw [storeBytesFrom_map interruptController (fun _ _ _ => rfl)]
    exact iff_of_true (fun h => congrArg interruptController (hquiet inner h)) not_false

end MappedDevice

namespace MemoryMap

variable {n : Nat}

/-- The map is as it was if and only if the device is. -/
theorem setDevice_eq_iff {D : Type} [Addressable D] (map : MemoryMap D n) (index : Fin n) (device : D) :
    map.setDevice index device = map ↔ device = map.device index := by
  constructor
  · intro h
    have hdevice := congrArg (fun map => MemoryMap.device map index) h
    rwa [show (map.setDevice index device).device index = device by
      show ((map.devices.set index _)[index.val]).device = device
      rw [Vector.getElem_set_self]] at hdevice
  · rintro rfl
    show { map with devices := map.devices.set index map.devices[index.val] } = map
    rw [Vector.set_getElem_self]

end MemoryMap

/-- **A store or a write beat that fails leaves everything as it was** if and only if it is not torn. -/
theorem failed_store_unchanged_iff {n : Nat} (map : MemoryMap MappedDevice n) (index : Fin n) :
    (∀ addr width writeData, width = 1 ∨ width = 2 ∨ width = 4 →
      (((∃ error, (map.executeRequest index (.store addr width writeData)).1 = .error error) →
        (map.executeRequest index (.store addr width writeData)).2 = map) ↔
          ¬ (map.device index).Torn addr (writeData.toList.take width))) ∧
      ∀ baseAddr words beatIndex,
        (((∃ error, (map.executeBurstBeat index (.writeWords baseAddr words) beatIndex).1 = .error error) →
          (map.executeBurstBeat index (.writeWords baseAddr words) beatIndex).2 = map) ↔
            ¬ (map.device index).Torn ((BurstRequest.writeWords baseAddr words).beatAddr beatIndex)
              (toLeBytes (words[beatIndex]?.getD 0)).toList) := by
  have hstore (addr : Address) {bytes : List U8} (hwidth : bytes.length ≤ 4) :
      ((∃ error, (storeBytesFrom (map.device index) addr 0 bytes).1 = .error error) →
        map.setDevice index (storeBytesFrom (map.device index) addr 0 bytes).2 = map) ↔
          ¬ (map.device index).Torn addr bytes := by
    rw [setDevice_eq_iff]
    exact (map.device index).unchanged_iff addr hwidth
  -- the answer of the map fails exactly when the bytes do
  have hmap {α : Type} (f : Unit → α) (answer : Except BusError Unit) :
      (∃ error, answer.map f = .error error) ↔ ∃ error, answer = .error error := by
    cases answer with
    | error error => exact ⟨fun _ => ⟨error, rfl⟩, fun _ => ⟨error, rfl⟩⟩
    | ok => exact iff_of_false (by rintro ⟨error, ⟨⟩⟩) (by rintro ⟨error, ⟨⟩⟩)
  constructor
  · intro addr width writeData hwidth
    have hbytes : (writeData.toList.take width).length ≤ 4 := by
      rw [List.length_take, Vector.length_toList]
      exact Nat.min_le_right _ _
    refine Iff.trans ?_ (hstore addr hbytes)
    rcases hwidth with rfl | rfl | rfl
    · rw [toList_four]
      exact imp_congr (hmap _ _) Iff.rfl
    · rw [toList_four]
      exact imp_congr (hmap _ _) Iff.rfl
    · rw [List.take_of_length_le Vector.length_toList.le]
      exact imp_congr (hmap _ _) Iff.rfl
  · intro baseAddr words beatIndex
    refine Iff.trans ?_ (hstore _ Vector.length_toList.le)
    exact imp_congr (hmap _ _) Iff.rfl

/-- A controller and a UART. -/
def controllerAndUart : MemoryMap MappedDevice 2 where
  devices := #v[⟨⟨0, 24⟩, .dma ⟨.new 0, rfl⟩⟩, ⟨⟨0x100, 8⟩, .uart ⟨.new 0x100, rfl⟩⟩]

/-- A store across the control register and a read-only one fails and changes nothing. -/
theorem failed_store_unchanged_control :
    (controllerAndUart.executeRequest 0 (.store 14 4 #v[1, 2, 3, 4])).2 = controllerAndUart :=
  ((failed_store_unchanged_iff controllerAndUart 0).1 14 4 #v[1, 2, 3, 4] (.inr (.inr rfl))).2 not_false
    ⟨_, rfl⟩

/-- The characters that a device has transmitted. -/
def MappedDevice.transmitted : MappedDevice → List U8
  | uart inner => inner.1.txBuffer
  | _ => []

/-- A word store to the transmit register fails, and has transmitted a character. -/
theorem torn_transmit :
    ¬ ∀ (n : Nat) (map : MemoryMap MappedDevice n) (addr : Address) (value : U32) (error : BusError),
      (Bus.store32 map addr value).1 = .error error → (∀ cycles, error ≠ .busy cycles) →
        (Bus.store32 map addr value).2.devices = map.devices := by
  intro h
  have hsame := h 2 controllerAndUart 0x100 0x41 (.unmappedAddress 0x101) (by decide +kernel)
    (by rintro cycles ⟨⟩)
  have htransmitted := congrArg (fun devices => devices[1].device.transmitted) hsame
  revert htransmitted
  decide +kernel

end RvSim
