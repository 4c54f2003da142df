import RvSim.Devices.BlockDevice
import RvSim.Devices.DmaController
import RvSim.Devices.InterruptController
import RvSim.Devices.Ram
import RvSim.System.ByteStores

/-!
# How the devices are laid out

A device keeps the layout it is made with. Which stores it refuses depends on the layout only, and for most
of the devices the register in front of a refused address ends in bytes that do nothing.

## Main definitions

* `Layout`, `Laid`: a device that is laid out as it is made

## Main results

* `ByteStores`, and `ByteContents` of the memory and the timer
* `QuietStores` of the devices with registers
-/

namespace RvSim

/-! ## Ranges -/

namespace AddressRange

variable {range : AddressRange} {addr : Address}

theorem contains_iff : range.contains addr ↔
    range.start.toNat ≤ addr.toNat ∧ addr.toNat < (range.start.toNat + range.size.toNat) % 2 ^ 64 := by
  unfold contains endAddress
  rw [Bool.and_eq_true, decide_eq_true_iff, decide_eq_true_iff, BitVec.le_def, BitVec.lt_def,
    BitVec.toNat_add]

/-- The offset of an address in a range. -/
theorem toNat_sub (h : range.contains addr) :
    (addr - range.start).toNat = addr.toNat - range.start.toNat ∧
      (addr - range.start).toNat < range.size.toNat := by
  have hrange := contains_iff.1 h
  have haddr := addr.isLt
  rw [BitVec.toNat_sub]
  omega

/-- The offset of a later address in a range. -/
theorem toNat_add_sub (h : range.contains addr) (hsize : range.size.toNat < 2 ^ 64 - 8) {i : Nat}
    (hi : range.contains (addr + BitVec.ofNat 64 i)) (hsmall : i < 4) :
    (addr + BitVec.ofNat 64 i - range.start).toNat = (addr - range.start).toNat + i := by
  rw [(toNat_sub h).1, (toNat_sub hi).1, BitVec.toNat_add, BitVec.toNat_ofNat]
  have hrange := contains_iff.1 h
  have hrange' := contains_iff.1 hi
  rw [BitVec.toNat_add, BitVec.toNat_ofNat] at hrange'
  omega

/-- A later address past the end of the range. -/
theorem size_le (h : range.contains addr) {i : Nat} (hi : ¬ range.contains (addr + BitVec.ofNat 64 i))
    (hsmall : i < 4) : range.size.toNat ≤ (addr - range.start).toNat + i := by
  have hrange := contains_iff.1 h
  rw [contains_iff, BitVec.toNat_add, BitVec.toNat_ofNat] at hi
  rw [(toNat_sub h).1]
  omega

end AddressRange

/-- What holds of each offset below a bound. -/
theorem forall_offset {n : Nat} {P : Address → Prop} (h : ∀ i < n, P (BitVec.ofNat 64 i)) {offset : Address}
    (hlt : offset.toNat < n) : P offset := by
  have hoffset := h offset.toNat hlt
  rwa [BitVec.ofNat_toNat, BitVec.setWidth_eq] at hoffset

/-! ## Layouts -/

/-- A layout that accesses and ticks keep. -/
class Layout (D : Type) [Addressable D] where
  layout : D → Prop
  load8 (device : D) (addr : Address) (h : layout device) : layout (Addressable.load8 device addr).2
  store8 (device : D) (addr : Address) (value : U8) (h : layout device) :
    layout (Addressable.store8 device addr value).2
  tick (device : D) (h : layout device) : layout (Addressable.tick device)
  latencyAsked (device : D) (addr : Address) (kind : AccessKind) (width : Nat) (h : layout device) :
    layout (Addressable.latencyAsked device addr kind width)

/-- A device that is laid out as it is made. -/
def Laid (D : Type) [Addressable D] [Layout D] : Type := { device : D // Layout.layout device }

instance {D : Type} [Addressable D] [Layout D] : Addressable (Laid D) where
  load8 device addr := ((Addressable.load8 device.1 addr).1,
    ⟨(Addressable.load8 device.1 addr).2, Layout.load8 device.1 addr device.2⟩)
  store8 device addr value := ((Addressable.store8 device.1 addr value).1,
    ⟨(Addressable.store8 device.1 addr value).2, Layout.store8 device.1 addr value device.2⟩)
  tick device := ⟨Addressable.tick device.1, Layout.tick device.1 device.2⟩
  machineTime device := Addressable.machineTime device.1
  accessLatency device := Addressable.accessLatency device.1
  latencyAsked device addr kind width := ⟨Addressable.latencyAsked device.1 addr kind width,
    Layout.latencyAsked device.1 addr kind width device.2⟩
  pendingInterrupts device := Addressable.pendingInterrupts device.1

/-- What a store to a device that is laid out answers and leaves. -/
theorem Laid.store8_eq {D : Type} [Addressable D] [Layout D] {device : Laid D} {addr : Address} {value : U8}
    {answer : Except BusError Unit} (h : Addressable.store8 device.1 addr value = (answer, device.1)) :
    Addressable.store8 device addr value = (answer, device) :=
  Prod.ext (show (Addressable.store8 device.1 addr value).1 = answer from congrArg Prod.fst h)
    (Subtype.ext (show (Addressable.store8 device.1 addr value).2 = device.1 from congrArg Prod.snd h))

/-! ## Memory -/

instance : Layout Ram where
  layout ram := ram.data.length = ram.range.size.toNat
  load8 ram addr h := by
    show (ram.load8 addr).2.data.length = (ram.load8 addr).2.range.size.toNat
    unfold Ram.load8
    repeat' split
    all_goals exact h
  store8 ram addr value h := by
    show (ram.store8 addr value).2.data.length = (ram.store8 addr value).2.range.size.toNat
    unfold Ram.store8
    split
    · split
      · exact List.length_set.trans h
      · exact h
    · exact h
  tick _ h := h
  latencyAsked _ _ _ _ h := h

/-- A store to a memory. -/
theorem Ram.store8_of_contains {ram : Ram} (hlayout : ram.data.length = ram.range.size.toNat)
    {addr : Address} (h : ram.range.contains addr) (value : U8) :
    ram.store8 addr value =
      (.ok (), { ram with data := ram.data.set (addr - ram.range.start).toNat value }) := by
  unfold Ram.store8 Ram.offset
  rw [if_pos h]
  exact if_pos (hlayout ▸ (AddressRange.toNat_sub h).2)

instance : ByteContents (Laid Ram) where
  refuses ram addr := !ram.1.range.contains addr
  store8_refused ram addr value h := by
    refine ⟨.unmappedAddress addr, Laid.store8_eq ?_⟩
    show ram.1.store8 addr value = _
    unfold Ram.store8 Ram.offset
    rw [if_neg (by simpa using h)]
  store8_accepted ram addr value h := by
    show (ram.1.store8 addr value).1 = _
    rw [Ram.store8_of_contains ram.2 (by simpa using h)]
  refuses_store8 ram addr value := by
    funext other
    show (!(ram.1.store8 addr value).2.range.contains other) = _
    unfold Ram.store8
    repeat' split
    all_goals rfl
  content ram addr := ram.1.data[(addr - ram.1.range.start).toNat]?.getD 0
  content_store8 ram addr other value h hother := by
    have hin : ram.1.range.contains addr := by simpa using h
    have hother : ram.1.range.contains other := by simpa using hother
    have hlt := (AddressRange.toNat_sub hin).2
    rw [← show ram.1.data.length = ram.1.range.size.toNat from ram.2] at hlt
    show ((ram.1.store8 addr value).2.data[
      (other - (ram.1.store8 addr value).2.range.start).toNat]?).getD 0 = _
    rw [Ram.store8_of_contains ram.2 hin]
    dsimp only
    by_cases heq : other = addr
    · rw [if_pos heq, heq, List.getElem?_set_self hlt]
      rfl
    · rw [if_neg heq, List.getElem?_set_ne]
      intro hoffset
      refine heq ?_
      rw [← BitVec.sub_add_cancel other ram.1.range.start, ← BitVec.sub_add_cancel addr ram.1.range.start,
        BitVec.eq_of_toNat_eq hoffset]
  store8_content ram addr h := by
    have hin : ram.1.range.contains addr := by simpa using h
    have hlt := (AddressRange.toNat_sub hin).2
    rw [← show ram.1.data.length = ram.1.range.size.toNat from ram.2] at hlt
    refine Subtype.ext ?_
    show (ram.1.store8 addr _).2 = ram.1
    rw [Ram.store8_of_contains ram.2 hin]
    dsimp only
    rw [List.getElem?_eq_getElem hlt, Option.getD_some, List.set_getElem_self]

/-! ## The UART -/

instance : Layout SimpleUart where
  layout uart := uart.range.size = 8
  load8 uart addr h := by
    show (uart.load8 addr).2.range.size = 8
    unfold SimpleUart.load8
    split <;> exact h
  store8 uart addr value h := by
    show (uart.store8 addr value).2.range.size = 8
    unfold SimpleUart.store8
    repeat' split
    all_goals exact h
  tick _ h := h
  latencyAsked _ _ _ _ h := h

instance : ByteStores (Laid SimpleUart) where
  refuses uart addr := !uart.1.range.contains addr ||
    !(addr - uart.1.range.start == SimpleUart.txOffset
      || addr - uart.1.range.start == SimpleUart.statusOffset)
  store8_refused uart addr value h := by
    refine ⟨.unmappedAddress addr, Laid.store8_eq ?_⟩
    show uart.1.store8 addr value = _
    unfold SimpleUart.store8 SimpleUart.offset
    simp only [Bool.or_eq_true, Bool.not_eq_true', Bool.or_eq_false_iff, beq_eq_false_iff_ne] at h
    rcases h with hout | ⟨htx, hstatus⟩
    · rw [hout]
      rfl
    · split
      · rename_i error herror
        split at herror
        · cases herror
        · cases herror
          rfl
      · rename_i offset hoffset
        split at hoffset
        · cases hoffset
          rw [if_neg htx, if_neg hstatus]
        · cases hoffset
  store8_accepted uart addr value h := by
    show (uart.1.store8 addr value).1 = _
    unfold SimpleUart.store8 SimpleUart.offset
    simp only [Bool.or_eq_true, Bool.not_eq_true', not_or, Bool.not_eq_false, Bool.or_eq_true,
      beq_iff_eq] at h
    rw [if_pos h.1]
    dsimp only
    split
    · rfl
    · rename_i htx
      rw [if_pos (h.2.resolve_left htx)]
  refuses_store8 uart addr value := by
    have hrange : (uart.1.store8 addr value).2.range = uart.1.range := by
      unfold SimpleUart.store8
      repeat' split
      all_goals rfl
    funext other
    show (!(uart.1.store8 addr value).2.range.contains other ||
      !(other - (uart.1.store8 addr value).2.range.start == _ ||
        other - (uart.1.store8 addr value).2.range.start == _)) = _
    rw [hrange]

/-! ## The DMA controller -/

theorem DmaController.store8_range (dma : DmaController) (addr : Address) (value : U8) :
    (dma.store8 addr value).2.range = dma.range := by
  have hcontrol : (dma.applyControlByte value).range = dma.range := by
    have hstart (flags : DmaController) : flags.startTransfer.range = flags.range := by
      unfold startTransfer
      split
      · rfl
      · dsimp only
        split <;> rfl
    unfold applyControlByte
    dsimp only
    split
    · rw [hstart]
      split <;> split <;> rfl
    · split <;> split <;> rfl
  unfold store8
  split
  · rfl
  · unfold storeRegister
    dsimp only
    repeat' split
    all_goals first | rfl | exact hcontrol

instance : Layout DmaController where
  layout dma := dma.range.size = 24
  load8 dma addr h := by
    show (dma.load8 addr).2.range.size = 24
    unfold DmaController.load8
    repeat' split
    all_goals exact h
  store8 dma addr value h := by
    show (dma.store8 addr value).2.range.size = 24
    rw [DmaController.store8_range]
    exact h
  tick _ h := h
  latencyAsked _ _ _ _ h := h

/-- The registers of the controller. -/
theorem DmaController.register_cases {offset : Address} (h : offset.toNat < 24) :
    (16 ≤ offset.toNat ∧ offset.toNat < 20 ∧ offset &&& ~~~0b11 = transferredOffset) ∨
      (¬ (16 ≤ offset.toNat ∧ offset.toNat < 20) ∧ (offset &&& ~~~0b11 = sourceOffset ∨
        offset &&& ~~~0b11 = destinationOffset ∨ offset &&& ~~~0b11 = lengthOffset ∨
        offset &&& ~~~0b11 = controlOffset ∨ offset &&& ~~~0b11 = routeOffset)) :=
  forall_offset (P := fun offset => (16 ≤ offset.toNat ∧ offset.toNat < 20 ∧
      offset &&& ~~~0b11 = transferredOffset) ∨
    (¬ (16 ≤ offset.toNat ∧ offset.toNat < 20) ∧ (offset &&& ~~~0b11 = sourceOffset ∨
      offset &&& ~~~0b11 = destinationOffset ∨ offset &&& ~~~0b11 = lengthOffset ∨
      offset &&& ~~~0b11 = controlOffset ∨ offset &&& ~~~0b11 = routeOffset))) (by decide +kernel) h

/-- Some of the bytes of the registers do nothing. -/
theorem DmaController.storeRegister_quiet (dma : DmaController) (addr : Address) {offset : Address}
    (h : 13 ≤ offset.toNat ∧ offset.toNat < 16 ∨ 21 ≤ offset.toNat ∧ offset.toNat < 24) (value : U8) :
    (dma.storeRegister addr offset value).2 = dma := by
  have hoffset := forall_offset (n := 24) (P := fun offset =>
    (13 ≤ offset.toNat ∧ offset.toNat < 16 ∨ 21 ≤ offset.toNat ∧ offset.toNat < 24) →
      (offset &&& ~~~0b11 = controlOffset ∨ offset &&& ~~~0b11 = routeOffset) ∧ byteIndex offset ≠ 0)
    (by decide +kernel) (show offset.toNat < 24 by omega) h
  obtain ⟨hregister, hindex⟩ := hoffset
  unfold storeRegister
  rcases hregister with hcontrol | hroute
  · rw [hcontrol]
    simp only [show controlOffset ≠ sourceOffset by decide, show controlOffset ≠ destinationOffset by decide,
      show controlOffset ≠ lengthOffset by decide, if_false, if_true]
    exact if_neg hindex
  · rw [hroute]
    simp only [show routeOffset ≠ sourceOffset by decide, show routeOffset ≠ destinationOffset by decide,
      show routeOffset ≠ lengthOffset by decide, show routeOffset ≠ controlOffset by decide,
      show routeOffset ≠ transferredOffset by decide, if_false, if_true]
    rw [InterruptRoute.fromRegister_writeU32Byte _ hindex]

instance : ByteStores (Laid DmaController) where
  refuses dma addr := !dma.1.range.contains addr ||
    (16 ≤ (addr - dma.1.range.start).toNat && (addr - dma.1.range.start).toNat < 20)
  store8_refused dma addr value h := by
    by_cases hin : dma.1.range.contains addr
    · rw [hin, Bool.not_true, Bool.false_or, Bool.and_eq_true, decide_eq_true_iff, decide_eq_true_iff] at h
      refine ⟨.readOnlyAddress addr, Laid.store8_eq ?_⟩
      show dma.1.store8 addr value = _
      unfold DmaController.store8 DmaController.offset
      rw [if_pos hin]
      rcases DmaController.register_cases (show (addr - dma.1.range.start).toNat < 24 by omega) with
        ⟨-, -, hregister⟩ | ⟨hnot, -⟩
      · dsimp only
        unfold DmaController.storeRegister
        rw [hregister]
        rfl
      · exact absurd h hnot
    · refine ⟨.unmappedAddress addr, Laid.store8_eq ?_⟩
      show dma.1.store8 addr value = _
      unfold DmaController.store8 DmaController.offset
      rw [if_neg hin]
  store8_accepted dma addr value h := by
    rw [Bool.or_eq_true, Bool.and_eq_true, decide_eq_true_iff, decide_eq_true_iff, not_or] at h
    have hin : dma.1.range.contains addr := by simpa using h.1
    have hlt : (addr - dma.1.range.start).toNat < 24 := by
      have hlt := (AddressRange.toNat_sub hin).2
      rwa [show dma.1.range.size = 24 from dma.2] at hlt
    show (dma.1.store8 addr value).1 = _
    unfold DmaController.store8 DmaController.offset
    rw [if_pos hin]
    rcases DmaController.register_cases hlt with ⟨hle, hlt, -⟩ | ⟨-, hregister⟩
    · exact absurd ⟨hle, hlt⟩ h.2
    · dsimp only
      unfold DmaController.storeRegister
      rcases hregister with hregister | hregister | hregister | hregister | hregister <;>
        rw [hregister] <;> rfl
  refuses_store8 dma addr value := by
    funext other
    show (!(dma.1.store8 addr value).2.range.contains other ||
      (decide (16 ≤ (other - (dma.1.store8 addr value).2.range.start).toNat) &&
        decide ((other - (dma.1.store8 addr value).2.range.start).toNat < 20))) = _
    rw [DmaController.store8_range]

/-- An access that goes from an accepted offset to a refused one. -/
theorem offset_cases {range : AddressRange} {addr : Address} {size i : Nat} (hsize : range.size.toNat = size)
    (hsmall : size < 2 ^ 63) (hin : range.contains addr) (hi : i < 4) {P : Address → Prop}
    (h : ¬ range.contains (addr + BitVec.ofNat 64 i) ∨ P (addr + BitVec.ofNat 64 i - range.start)) :
    size ≤ (addr - range.start).toNat + i ∨ ∃ offset : Address, P offset ∧
      offset.toNat = (addr - range.start).toNat + i := by
  by_cases hlater : range.contains (addr + BitVec.ofNat 64 i)
  · refine .inr ⟨_, h.resolve_left (not_not.2 hlater), ?_⟩
    exact AddressRange.toNat_add_sub hin (by omega) hlater hi
  · exact .inl (hsize ▸ AddressRange.size_le hin hlater hi)

instance : QuietStores (Laid DmaController) where
  store8_quiet dma addr i value hpos hlt haccepted hrefused := by
    change ¬ ((!dma.1.range.contains addr || _) = true) at haccepted
    change (!dma.1.range.contains (addr + BitVec.ofNat 64 i) || _) = true at hrefused
    rw [Bool.or_eq_true, Bool.and_eq_true, decide_eq_true_iff, decide_eq_true_iff, not_or] at haccepted
    rw [Bool.or_eq_true, Bool.and_eq_true, decide_eq_true_iff, decide_eq_true_iff, Bool.not_eq_true',
      ← Bool.not_eq_true] at hrefused
    have hin : dma.1.range.contains addr := by simpa using haccepted.1
    have hsize : dma.1.range.size.toNat = 24 := congrArg BitVec.toNat (show _ = _ from dma.2)
    have hoffset := (AddressRange.toNat_sub hin).2
    refine Subtype.ext ?_
    show (dma.1.store8 addr value).2 = dma.1
    unfold DmaController.store8 DmaController.offset
    rw [if_pos hin]
    refine DmaController.storeRegister_quiet _ _ ?_ value
    rcases offset_cases hsize (by decide) hin hlt (P := fun offset =>
      16 ≤ offset.toNat ∧ offset.toNat < 20) hrefused with hend | ⟨offset, hread, heq⟩
    · omega
    · omega

/-! ## The interrupt controller -/

theorem InterruptController.store8_range (controller : InterruptController) (addr : Address) (value : U8) :
    (controller.store8 addr value).2.range = controller.range := by
  unfold store8
  split
  · rfl
  · unfold storeRegister
    dsimp only
    repeat' split
    all_goals rfl

instance : Layout InterruptController where
  layout controller := controller.range.size = 20
  load8 controller addr h := by
    have hclaim : controller.claimNext.2.range = controller.range := by
      unfold InterruptController.claimNext
      dsimp only
      split <;> rfl
    show (controller.load8 addr).2.range.size = 20
    unfold InterruptController.load8
    dsimp only
    repeat' split
    all_goals first | exact h | exact (congrArg AddressRange.size hclaim).trans h
  store8 controller addr value h := by
    show (controller.store8 addr value).2.range.size = 20
    rw [InterruptController.store8_range]
    exact h
  tick _ h := h
  latencyAsked _ _ _ _ h := h

instance : ByteStores (Laid InterruptController) where
  refuses controller addr := !controller.1.range.contains addr || (addr - controller.1.range.start).toNat < 4
  store8_refused controller addr value h := by
    by_cases hin : controller.1.range.contains addr
    · rw [hin, Bool.not_true, Bool.false_or, decide_eq_true_iff] at h
      refine ⟨.readOnlyAddress addr, Laid.store8_eq ?_⟩
      show controller.1.store8 addr value = _
      unfold InterruptController.store8 InterruptController.offset
      rw [if_pos hin]
      exact if_pos (BitVec.lt_def.2 h)
    · refine ⟨.unmappedAddress addr, Laid.store8_eq ?_⟩
      show controller.1.store8 addr value = _
      unfold InterruptController.store8 InterruptController.offset
      rw [if_neg hin]
  store8_accepted controller addr value h := by
    rw [Bool.or_eq_true, decide_eq_true_iff, not_or] at h
    have hin : controller.1.range.contains addr := by simpa using h.1
    have hlt : (addr - controller.1.range.start).toNat < 20 := by
      have hlt := (AddressRange.toNat_sub hin).2
      rwa [show controller.1.range.size = 20 from controller.2] at hlt
    show (controller.1.store8 addr value).1 = _
    unfold InterruptController.store8 InterruptController.offset
    rw [if_pos hin]
    dsimp only
    unfold InterruptController.storeRegister
    rw [if_neg (fun hread => h.2 (BitVec.lt_def.1 hread))]
    repeat' split
    all_goals first | rfl | exact absurd (BitVec.lt_def.2 hlt) ‹_›
  refuses_store8 controller addr value := by
    funext other
    show (!(controller.1.store8 addr value).2.range.contains other ||
      decide ((other - (controller.1.store8 addr value).2.range.start).toNat < 4)) = _
    rw [InterruptController.store8_range]

instance : QuietStores (Laid InterruptController) where
  store8_quiet controller addr i value hpos hlt haccepted hrefused := by
    change ¬ ((!controller.1.range.contains addr || _) = true) at haccepted
    change (!controller.1.range.contains (addr + BitVec.ofNat 64 i) || _) = true at hrefused
    rw [Bool.or_eq_true, decide_eq_true_iff, not_or] at haccepted
    rw [Bool.or_eq_true, decide_eq_true_iff, Bool.not_eq_true', ← Bool.not_eq_true] at hrefused
    have hin : controller.1.range.contains addr := by simpa using haccepted.1
    have hsize : controller.1.range.size.toNat = 20 := congrArg BitVec.toNat (show _ = _ from controller.2)
    have hoffset := (AddressRange.toNat_sub hin).2
    have hroute : 17 ≤ (addr - controller.1.range.start).toNat := by
      rcases offset_cases hsize (by decide) hin hlt (P := fun offset => offset.toNat < 4) hrefused with
        hend | ⟨offset, hread, heq⟩
      · omega
      · omega
    refine Subtype.ext ?_
    show (controller.1.store8 addr value).2 = controller.1
    unfold InterruptController.store8 InterruptController.offset
    rw [if_pos hin]
    have hregister := forall_offset (n := 20) (P := fun offset => 17 ≤ offset.toNat →
      ¬ offset < InterruptController.enableOffset ∧ ¬ offset < InterruptController.setPendingOffset ∧
      ¬ offset < InterruptController.claimCompleteOffset ∧ ¬ offset < InterruptController.routeOffset ∧
      offset < 20 ∧ byteIndex (offset - InterruptController.routeOffset) ≠ 0)
      (by decide +kernel) (show (addr - controller.1.range.start).toNat < 20 by omega) hroute
    obtain ⟨h0, h1, h2, h3, h4, hindex⟩ := hregister
    dsimp only
    unfold InterruptController.storeRegister
    rw [if_neg h0, if_neg h1, if_neg h2, if_neg h3, if_pos h4]
    dsimp only
    rw [InterruptRoute.fromRegister_writeU32Byte _ hindex]

/-! ## The block device -/

namespace BlockDevice

/-- The device is laid out as it is made. The bytes of a block fit the size of a vector. -/
structure LaidOut (device : BlockDevice) : Prop where
  size : device.range.size = routeOffset device.blockBytes + 4
  bytes : device.blockBytes < 2 ^ 63
  staging : device.staging.length = device.blockBytes
  storage : device.storage.length = device.blockCount.toNat * device.blockBytes

theorem LaidOut.finishCommand {device : BlockDevice} (h : device.LaidOut) (kind : BlockCommand) :
    (device.finishCommand kind).LaidOut := by
  unfold BlockDevice.finishCommand blockRange
  split
  · exact ⟨h.size, h.bytes, h.staging, h.storage⟩
  · rename_i start hstart
    split at hstart
    · cases hstart
    · rename_i hindex
      cases hstart
      have hlt : device.selectedBlock.toNat < device.blockCount.toNat :=
        BitVec.lt_def.1 (BitVec.not_le.1 hindex)
      have hend : device.selectedBlock.toNat * device.blockBytes + device.blockBytes ≤
          device.storage.length := by
        rw [h.storage, ← Nat.succ_mul]
        exact Nat.mul_le_mul_right _ hlt
      cases kind with
      | readBlock =>
        refine ⟨h.size, h.bytes, ?_, h.storage⟩
        dsimp only
        rw [List.length_take, List.length_drop]
        omega
      | writeBlock =>
        refine ⟨h.size, h.bytes, h.staging, ?_⟩
        dsimp only
        rw [List.length_append, List.length_append, List.length_take, List.length_drop, h.staging,
          ← h.storage]
        omega

theorem LaidOut.startCommand {device : BlockDevice} (h : device.LaidOut) (kind : BlockCommand) :
    (device.startCommand kind).LaidOut := by
  have hcleared : { device with done := false, error := false }.LaidOut :=
    ⟨h.size, h.bytes, h.staging, h.storage⟩
  unfold BlockDevice.startCommand
  dsimp only
  split
  · exact ⟨h.size, h.bytes, h.staging, h.storage⟩
  · split
    · exact hcleared.finishCommand kind
    · exact ⟨h.size, h.bytes, h.staging, h.storage⟩

theorem LaidOut.applyControlByte {device : BlockDevice} (h : device.LaidOut) (value : U8) :
    (device.applyControlByte value).LaidOut := by
  have hflags (irqEnabled done error : Bool) :
      { device with irqEnabled := irqEnabled, done := done, error := error }.LaidOut :=
    ⟨h.size, h.bytes, h.staging, h.storage⟩
  unfold BlockDevice.applyControlByte
  dsimp only
  split
  · refine LaidOut.startCommand ?_ _
    split <;> split <;> exact hflags _ _ _
  · refine LaidOut.startCommand ?_ _
    split <;> split <;> exact hflags _ _ _
  · split <;> split <;> exact hflags _ _ _
  · split <;> split <;> exact hflags _ _ _

theorem LaidOut.store8 {device : BlockDevice} (h : device.LaidOut) (addr : Address) (value : U8) :
    (device.store8 addr value).2.LaidOut := by
  unfold BlockDevice.store8
  split
  · exact h
  · unfold storeRegister
    dsimp only
    split
    · exact ⟨h.size, h.bytes, h.staging, h.storage⟩
    · split
      · split
        · exact h.applyControlByte value
        · exact h
      · split
        · exact h
        · split
          · exact ⟨h.size, h.bytes, h.staging, h.storage⟩
          · split
            · exact ⟨h.size, h.bytes, List.length_set.trans h.staging, h.storage⟩
            · exact h

theorem LaidOut.tick {device : BlockDevice} (h : device.LaidOut) : device.tick.LaidOut := by
  unfold BlockDevice.tick
  split
  · exact h
  · split
    · exact ⟨h.size, h.bytes, h.staging, h.storage⟩
    · refine LaidOut.finishCommand ?_ _
      exact ⟨h.size, h.bytes, h.staging, h.storage⟩

/-- The route register is behind the staging window. -/
theorem LaidOut.toNat_route {device : BlockDevice} (h : device.LaidOut) :
    device.routeOffsetForInstance.toNat = 16 + device.blockBytes ∧
      device.range.size.toNat = 20 + device.blockBytes := by
  have hbytes := h.bytes
  have hroute : device.routeOffsetForInstance.toNat = 16 + device.blockBytes := by
    show (16 + BitVec.ofNat 64 device.blockBytes : Address).toNat = _
    rw [BitVec.toNat_add, BitVec.toNat_ofNat, Nat.mod_eq_of_lt (show device.blockBytes < 2 ^ 64 by omega)]
    exact Nat.mod_eq_of_lt (show 16 + device.blockBytes < 2 ^ 64 by omega)
  refine ⟨hroute, ?_⟩
  rw [h.size, BitVec.toNat_add, show (routeOffset device.blockBytes).toNat = _ from hroute]
  show (16 + device.blockBytes + 4) % 2 ^ 64 = _
  omega

/-- The registers of the device. -/
theorem LaidOut.isRoute_iff {device : BlockDevice} (h : device.LaidOut) (offset : Address) :
    device.isRoute offset ↔ 16 + device.blockBytes ≤ offset.toNat ∧
      offset.toNat < 20 + device.blockBytes := by
  have hbytes := h.bytes
  have hroute := h.toNat_route.1
  unfold isRoute
  rw [BitVec.le_def, BitVec.lt_def, BitVec.toNat_add, hroute]
  show _ ∧ _ < (16 + device.blockBytes + 4) % 2 ^ 64 ↔ _
  omega

end BlockDevice

instance : Layout BlockDevice where
  layout := BlockDevice.LaidOut
  load8 device addr h := by
    show (device.load8 addr).2.LaidOut
    unfold BlockDevice.load8
    split <;> exact h
  store8 _ addr value h := h.store8 addr value
  tick _ h := h.tick
  latencyAsked _ _ _ _ h := h

theorem BlockDevice.store8_range (device : BlockDevice) (addr : Address) (value : U8) :
    (device.store8 addr value).2.range = device.range := by
  have hfinish (other : BlockDevice) (kind : BlockCommand) :
      (other.finishCommand kind).range = other.range := by
    unfold finishCommand
    repeat' split
    all_goals rfl
  have hstart (other : BlockDevice) (kind : BlockCommand) :
      (other.startCommand kind).range = other.range := by
    unfold startCommand
    dsimp only
    repeat' split
    all_goals first | rfl | exact hfinish _ _
  have hcontrol : (device.applyControlByte value).range = device.range := by
    unfold applyControlByte
    dsimp only
    split
    · rw [hstart]
      split <;> split <;> rfl
    · rw [hstart]
      split <;> split <;> rfl
    · split <;> split <;> rfl
    · split <;> split <;> rfl
  unfold store8
  split
  · rfl
  · unfold storeRegister
    dsimp only
    repeat' split
    all_goals first | rfl | exact hcontrol

instance : ByteStores (Laid BlockDevice) where
  refuses device addr := !device.1.range.contains addr ||
    (8 ≤ (addr - device.1.range.start).toNat && (addr - device.1.range.start).toNat < 16)
  store8_refused device addr value h := by
    by_cases hin : device.1.range.contains addr
    · rw [hin, Bool.not_true, Bool.false_or, Bool.and_eq_true, decide_eq_true_iff, decide_eq_true_iff] at h
      have hregister := forall_offset (n := 16) (P := fun offset => 8 ≤ offset.toNat →
        ¬ offset < BlockDevice.controlOffset ∧ ¬ offset < BlockDevice.blockCountOffset ∧
        offset < BlockDevice.dataWindowOffset) (by decide +kernel) h.2 h.1
      refine ⟨.readOnlyAddress addr, Laid.store8_eq ?_⟩
      show device.1.store8 addr value = _
      unfold BlockDevice.store8 BlockDevice.offset
      rw [if_pos hin]
      dsimp only
      unfold BlockDevice.storeRegister
      rw [if_neg hregister.1, if_neg hregister.2.1, if_pos hregister.2.2]
    · refine ⟨.unmappedAddress addr, Laid.store8_eq ?_⟩
      show device.1.store8 addr value = _
      unfold BlockDevice.store8 BlockDevice.offset
      rw [if_neg hin]
  store8_accepted device addr value h := by
    rw [Bool.or_eq_true, Bool.and_eq_true, decide_eq_true_iff, decide_eq_true_iff, not_or] at h
    have hin : device.1.range.contains addr := by simpa using h.1
    have hlayout : device.1.LaidOut := device.2
    have hlt := (AddressRange.toNat_sub hin).2
    rw [hlayout.toNat_route.2] at hlt
    show (device.1.store8 addr value).1 = _
    unfold BlockDevice.store8 BlockDevice.offset
    rw [if_pos hin]
    dsimp only
    unfold BlockDevice.storeRegister
    split
    · rfl
    · split
      · rfl
      · rename_i hcount
        rw [BitVec.lt_def, show BlockDevice.blockCountOffset.toNat = 8 from rfl] at hcount
        have hwindow : 16 ≤ (addr - device.1.range.start).toNat := by omega
        have hwindow' : ¬ addr - device.1.range.start < BlockDevice.dataWindowOffset := by
          rw [BitVec.lt_def, show BlockDevice.dataWindowOffset.toNat = 16 from rfl]
          omega
        rw [if_neg hwindow']
        split
        · rfl
        · rename_i hroute
          rw [hlayout.isRoute_iff] at hroute
          have hindex : (addr - device.1.range.start - BlockDevice.dataWindowOffset).toNat <
              device.1.staging.length := by
            rw [hlayout.staging, BitVec.toNat_sub, show BlockDevice.dataWindowOffset.toNat = 16 from rfl]
            omega
          dsimp only
          rw [if_pos hindex]
  refuses_store8 device addr value := by
    funext other
    show (!(device.1.store8 addr value).2.range.contains other ||
      (decide (8 ≤ (other - (device.1.store8 addr value).2.range.start).toNat) &&
        decide ((other - (device.1.store8 addr value).2.range.start).toNat < 16))) = _
    rw [BlockDevice.store8_range]

instance : QuietStores (Laid BlockDevice) where
  store8_quiet device addr i value hpos hlt haccepted hrefused := by
    change ¬ ((!device.1.range.contains addr || _) = true) at haccepted
    change (!device.1.range.contains (addr + BitVec.ofNat 64 i) || _) = true at hrefused
    rw [Bool.or_eq_true, Bool.and_eq_true, decide_eq_true_iff, decide_eq_true_iff, not_or] at haccepted
    rw [Bool.or_eq_true, Bool.and_eq_true, decide_eq_true_iff, decide_eq_true_iff, Bool.not_eq_true',
      ← Bool.not_eq_true] at hrefused
    have hin : device.1.range.contains addr := by simpa using haccepted.1
    have hlayout : device.1.LaidOut := device.2
    have hbytes := hlayout.bytes
    have hsize := hlayout.toNat_route.2
    have hoffset := (AddressRange.toNat_sub hin).2
    refine Subtype.ext ?_
    show (device.1.store8 addr value).2 = device.1
    unfold BlockDevice.store8 BlockDevice.offset
    rw [if_pos hin]
    dsimp only
    have hquiet : 5 ≤ (addr - device.1.range.start).toNat ∧ (addr - device.1.range.start).toNat < 8 ∨
        17 + device.1.blockBytes ≤ (addr - device.1.range.start).toNat := by
      by_cases hlater : device.1.range.contains (addr + BitVec.ofNat 64 i)
      · have hread := hrefused.resolve_left (not_not.2 hlater)
        rw [AddressRange.toNat_add_sub hin (by omega) hlater hlt] at hread
        omega
      · have hend := AddressRange.size_le hin hlater hlt
        omega
    rcases hquiet with hcontrol | hroute
    · have hregister := forall_offset (n := 8) (P := fun offset => 5 ≤ offset.toNat →
        ¬ offset < BlockDevice.controlOffset ∧ offset < BlockDevice.blockCountOffset ∧
        offset ≠ BlockDevice.controlOffset) (by decide +kernel) hcontrol.2 hcontrol.1
      unfold BlockDevice.storeRegister
      rw [if_neg hregister.1, if_pos hregister.2.1]
      exact if_neg hregister.2.2
    · have hroute' : device.1.isRoute (addr - device.1.range.start) :=
        (hlayout.isRoute_iff _).2 ⟨by omega, by omega⟩
      have hge (bound : Address) (hbound : bound.toNat ≤ 16) : ¬ addr - device.1.range.start < bound := by
        rw [BitVec.lt_def]
        omega
      have hindex : byteIndex (addr - device.1.range.start - device.1.routeOffsetForInstance) ≠ 0 := by
        have hbyte : (addr - device.1.range.start - device.1.routeOffsetForInstance).toNat =
            (addr - device.1.range.start).toNat - (16 + device.1.blockBytes) := by
          rw [BitVec.toNat_sub, hlayout.toNat_route.1]
          omega
        exact forall_offset (n := 4) (P := fun offset => offset.toNat ≠ 0 → byteIndex offset ≠ 0)
          (by decide +kernel) (by omega) (by omega)
      unfold BlockDevice.storeRegister
      rw [if_neg (hge _ (by decide)), if_neg (hge _ (by decide)), if_neg (hge _ (by decide)), if_pos hroute']
      dsimp only
      rw [InterruptRoute.fromRegister_writeU32Byte _ hindex]

/-! ## The machine timer -/

namespace MachineTimer

section Halves

variable (word : U64) (half : U32)

theorem getLsbD_mask : ∀ i < 64, (0xffff_ffff : U64).getLsbD i = decide (i < 32) := by
  intro i hi
  rw [show (0xffff_ffff : U64) = (BitVec.allOnes 32).setWidth 64 from rfl, BitVec.getLsbD_setWidth,
    BitVec.getLsbD_allOnes, decide_eq_true hi, Bool.true_and]

theorem low_withLow : low (withLow word half) = half := by
  unfold low withLow
  have hmask := getLsbD_mask
  generalize (0xffff_ffff : U64) = mask at hmask ⊢
  refine BitVec.eq_of_getLsbD_eq fun i hi => ?_
  simp [hi, hmask i (by omega)]

theorem high_withLow : high (withLow word half) = high word := by
  unfold high withLow
  have hmask := getLsbD_mask
  generalize (0xffff_ffff : U64) = mask at hmask ⊢
  refine BitVec.eq_of_getLsbD_eq fun i hi => ?_
  simp [-BitVec.getLsbD_eq_getElem, hi, hmask (32 + i) (by omega), show 32 + i < 64 by omega]

theorem low_withHigh : low (withHigh word half) = low word := by
  unfold low withHigh
  have hmask := getLsbD_mask
  generalize (0xffff_ffff : U64) = mask at hmask ⊢
  refine BitVec.eq_of_getLsbD_eq fun i hi => ?_
  simp [hi, hmask i (by omega)]

theorem high_withHigh : high (withHigh word half) = half := by
  unfold high withHigh
  have hmask := getLsbD_mask
  generalize (0xffff_ffff : U64) = mask at hmask ⊢
  refine BitVec.eq_of_getLsbD_eq fun i hi => ?_
  simp [-BitVec.getLsbD_eq_getElem, hi, hmask (32 + i) (by omega), show 32 + i < 64 by omega,
    show ¬ 32 + i < 32 by omega, show i < 64 by omega]

theorem withLow_low : withLow word (low word) = word := by
  unfold low withLow
  have hmask := getLsbD_mask
  generalize (0xffff_ffff : U64) = mask at hmask ⊢
  refine BitVec.eq_of_getLsbD_eq fun i hi => ?_
  have hbit := hmask i hi
  by_cases h : i < 32
  · rw [decide_eq_true h] at hbit
    simp [hi, h, hbit]
  · rw [decide_eq_false h] at hbit
    simp [-BitVec.getLsbD_eq_getElem, hi, h, hbit]

theorem withHigh_high : withHigh word (high word) = word := by
  unfold high withHigh
  have hmask := getLsbD_mask
  generalize (0xffff_ffff : U64) = mask at hmask ⊢
  refine BitVec.eq_of_getLsbD_eq fun i hi => ?_
  have hbit := hmask i hi
  by_cases h : i < 32
  · rw [decide_eq_true h] at hbit
    simp [hi, h, hbit]
  · rw [decide_eq_false h] at hbit
    simp [-BitVec.getLsbD_eq_getElem, hi, h, hbit, show 32 + (i - 32) = i by omega,
      show i - 32 < 64 by omega, show i - 32 < 32 by omega]

end Halves

/-- The four words of the timer. -/
def register (timer : MachineTimer) : Fin 4 → U32
  | 0 => low timer.mtime
  | 1 => high timer.mtime
  | 2 => low timer.mtimecmp
  | 3 => high timer.mtimecmp

/-- The timer with another value of a word. -/
def withRegister (timer : MachineTimer) (value : U32) : Fin 4 → MachineTimer
  | 0 => { timer with mtime := withLow timer.mtime value }
  | 1 => { timer with mtime := withHigh timer.mtime value }
  | 2 => { timer with mtimecmp := withLow timer.mtimecmp value }
  | 3 => { timer with mtimecmp := withHigh timer.mtimecmp value }

theorem register_withRegister (timer : MachineTimer) (value : U32) (index other : Fin 4) :
    (timer.withRegister value index).register other =
      if other = index then value else timer.register other := by
  match index, other with
  | 0, 0 => exact low_withLow _ _
  | 0, 1 => exact high_withLow _ _
  | 0, 2 => rfl
  | 0, 3 => rfl
  | 1, 0 => exact low_withHigh _ _
  | 1, 1 => exact high_withHigh _ _
  | 1, 2 => rfl
  | 1, 3 => rfl
  | 2, 0 => rfl
  | 2, 1 => rfl
  | 2, 2 => exact low_withLow _ _
  | 2, 3 => exact high_withLow _ _
  | 3, 0 => rfl
  | 3, 1 => rfl
  | 3, 2 => exact low_withHigh _ _
  | 3, 3 => exact high_withHigh _ _

theorem withRegister_register (timer : MachineTimer) (index : Fin 4) :
    timer.withRegister (timer.register index) index = timer := by
  match index with
  | 0 => exact congrArg (fun mtime => { timer with mtime }) (withLow_low _)
  | 1 => exact congrArg (fun mtime => { timer with mtime }) (withHigh_high _)
  | 2 => exact congrArg (fun mtimecmp => { timer with mtimecmp }) (withLow_low _)
  | 3 => exact congrArg (fun mtimecmp => { timer with mtimecmp }) (withHigh_high _)

/-- The offset of a byte of a word. -/
def byteOffset (index byte : Fin 4) : Address := BitVec.ofNat 64 (4 * index.val + byte.val)

theorem eq_byteOffset {offset : Address} (h : offset.toNat < 16) :
    ∃ index byte, offset = byteOffset index byte :=
  forall_offset (P := fun offset => ∃ index byte, offset = byteOffset index byte) (by decide +kernel) h

theorem readRegisterByte_byteOffset (timer : MachineTimer) (index byte : Fin 4) :
    timer.readRegisterByte (byteOffset index byte) = (toLeBytes (timer.register index)).get byte := by
  match index, byte with
  | 0, 0 | 0, 1 | 0, 2 | 0, 3 | 1, 0 | 1, 1 | 1, 2 | 1, 3 | 2, 0 | 2, 1 | 2, 2 | 2, 3 | 3, 0 | 3, 1 | 3, 2
  | 3, 3 => rfl

theorem writeRegisterByte_byteOffset (timer : MachineTimer) (index byte : Fin 4) (value : U8) :
    timer.writeRegisterByte (byteOffset index byte) value =
      timer.withRegister (writeU32Byte (timer.register index) byte value) index := by
  match index, byte with
  | 0, 0 | 0, 1 | 0, 2 | 0, 3 | 1, 0 | 1, 1 | 1, 2 | 1, 3 | 2, 0 | 2, 1 | 2, 2 | 2, 3 | 3, 0 | 3, 1 | 3, 2
  | 3, 3 => rfl

/-- A byte of the timer is read as it was written. -/
theorem readRegisterByte_writeRegisterByte (timer : MachineTimer) {offset other : Address}
    (h : offset.toNat < 16) (hother : other.toNat < 16) (value : U8) :
    (timer.writeRegisterByte offset value).readRegisterByte other =
      if other = offset then value else timer.readRegisterByte other := by
  have hinj : ∀ index byte index' byte', byteOffset index' byte' = byteOffset index byte ↔
      index' = index ∧ byte' = byte := by decide +kernel
  obtain ⟨index, byte, rfl⟩ := eq_byteOffset h
  obtain ⟨index', byte', rfl⟩ := eq_byteOffset hother
  rw [writeRegisterByte_byteOffset, readRegisterByte_byteOffset, readRegisterByte_byteOffset,
    register_withRegister]
  simp only [hinj]
  by_cases hindex : index' = index
  · rw [if_pos hindex, toLeBytes_writeU32Byte, hindex]
    show ((toLeBytes (timer.register index)).set byte.val value)[byte'.val] = _
    rw [Vector.getElem_set]
    by_cases hbyte : byte' = byte
    · rw [if_pos (congrArg Fin.val hbyte).symm, if_pos ⟨rfl, hbyte⟩]
    · rw [if_neg fun hval => hbyte (Fin.ext hval.symm), if_neg fun h => hbyte h.2]
      rfl
  · rw [if_neg hindex, if_neg fun h => hindex h.1]

/-- A byte that is written as it is read changes nothing. -/
theorem writeRegisterByte_readRegisterByte (timer : MachineTimer) {offset : Address} (h : offset.toNat < 16) :
    timer.writeRegisterByte offset (timer.readRegisterByte offset) = timer := by
  obtain ⟨index, byte, rfl⟩ := eq_byteOffset h
  rw [readRegisterByte_byteOffset, writeRegisterByte_byteOffset]
  have hsame : writeU32Byte (timer.register index) byte ((toLeBytes (timer.register index)).get byte) =
      timer.register index := by
    unfold writeU32Byte
    rw [show (toLeBytes (timer.register index)).get byte =
        (toLeBytes (timer.register index))[byte.val] from rfl,
      Vector.set_getElem_self, fromLeBytes_toLeBytes]
  rw [hsame, withRegister_register]

theorem writeRegisterByte_range (timer : MachineTimer) (offset : Address) (value : U8) :
    (timer.writeRegisterByte offset value).range = timer.range := by
  unfold writeRegisterByte
  repeat' split
  all_goals rfl

theorem store8_range (timer : MachineTimer) (addr : Address) (value : U8) :
    (timer.store8 addr value).2.range = timer.range := by
  unfold store8
  split
  · rfl
  · exact timer.writeRegisterByte_range _ value

end MachineTimer

instance : Layout MachineTimer where
  layout timer := timer.range.size = 16
  load8 timer addr h := by
    show (timer.load8 addr).2.range.size = 16
    unfold MachineTimer.load8
    split <;> exact h
  store8 timer addr value h := by
    show (timer.store8 addr value).2.range.size = 16
    rw [MachineTimer.store8_range]
    exact h
  tick _ h := h
  latencyAsked _ _ _ _ h := h

/-- A store to the timer. -/
theorem MachineTimer.store8_of_contains {timer : MachineTimer} {addr : Address}
    (h : timer.range.contains addr) (value : U8) :
    timer.store8 addr value = (.ok (), timer.writeRegisterByte (addr - timer.range.start) value) := by
  unfold store8 offset
  rw [if_pos h]

instance : ByteContents (Laid MachineTimer) where
  refuses timer addr := !timer.1.range.contains addr
  store8_refused timer addr value h := by
    refine ⟨.unmappedAddress addr, Laid.store8_eq ?_⟩
    show timer.1.store8 addr value = _
    unfold MachineTimer.store8 MachineTimer.offset
    rw [if_neg (by simpa using h)]
  store8_accepted timer addr value h := by
    show (timer.1.store8 addr value).1 = _
    rw [MachineTimer.store8_of_contains (by simpa using h)]
  refuses_store8 timer addr value := by
    funext other
    show (!(timer.1.store8 addr value).2.range.contains other) = _
    rw [MachineTimer.store8_range]
  content timer addr := timer.1.readRegisterByte (addr - timer.1.range.start)
  content_store8 timer addr other value h hother := by
    have hin : timer.1.range.contains addr := by simpa using h
    have hother : timer.1.range.contains other := by simpa using hother
    have hlt := (AddressRange.toNat_sub hin).2
    have hlt' := (AddressRange.toNat_sub hother).2
    rw [show timer.1.range.size = 16 from timer.2] at hlt hlt'
    show (timer.1.store8 addr value).2.readRegisterByte
      (other - (timer.1.store8 addr value).2.range.start) = _
    rw [MachineTimer.store8_range, MachineTimer.store8_of_contains hin]
    dsimp only
    rw [MachineTimer.readRegisterByte_writeRegisterByte _ hlt hlt']
    by_cases heq : other = addr
    · rw [if_pos heq, if_pos (congrArg (· - timer.1.range.start) heq)]
    · rw [if_neg heq, if_neg]
      intro hoffset
      refine heq ?_
      rw [← BitVec.sub_add_cancel other timer.1.range.start, hoffset, BitVec.sub_add_cancel]
  store8_content timer addr h := by
    have hin : timer.1.range.contains addr := by simpa using h
    have hlt := (AddressRange.toNat_sub hin).2
    rw [show timer.1.range.size = 16 from timer.2] at hlt
    refine Subtype.ext ?_
    show (timer.1.store8 addr _).2 = timer.1
    rw [MachineTimer.store8_of_contains hin]
    exact timer.1.writeRegisterByte_readRegisterByte hlt

end RvSim
