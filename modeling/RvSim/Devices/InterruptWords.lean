import RvSim.Devices.InterruptController
import RvSim.System.MemoryMap

/-!
# The words of the interrupt controller

Software uses the interrupt controller by reading and writing its registers as words. A word is four
accesses of a byte; together they are one step.

## Main definitions

* `InterruptController.Register`, `InterruptController.WordAccess`: the accesses of software
* `InterruptController.access`, `InterruptController.wordStep`: an access byte by byte, and as one step

## Main results

* `InterruptController.access_eq`: the bytes of an access are one step
* `InterruptController.access_unmapped`: without addresses for its registers it refuses every access
-/

namespace RvSim

namespace InterruptController

/-! ## Words -/

inductive Register
  | pending | enable | setPending | claimComplete | route
  deriving DecidableEq, Repr

def Register.offset : Register → Address
  | pending => 0
  | enable => enableOffset
  | setPending => setPendingOffset
  | claimComplete => claimCompleteOffset
  | route => routeOffset

/-- A word that software reads from or writes to a register. -/
inductive WordAccess
  | read (register : Register)
  | write (register : Register) (value : U32)
  deriving DecidableEq, Repr

/-- The access as the memory map performs it, byte by byte from the first; a write is answered with 0. -/
def access (controller : InterruptController) : WordAccess → Except BusError U32 × InterruptController
  | .read register =>
    let out := MemoryMap.loadBytesFrom controller (controller.range.start + register.offset) 0 4
    (out.1.map fun bytes => fromLeBytes (MemoryMap.padBytes bytes), out.2)
  | .write register value =>
    let out := MemoryMap.storeBytesFrom controller (controller.range.start + register.offset) 0
      (toLeBytes value).toList
    (out.1.map fun _ => 0, out.2)

def next (controller : InterruptController) (word : WordAccess) : InterruptController :=
  (controller.access word).2

/-- The access as one step. -/
def wordStep (controller : InterruptController) : WordAccess → Except BusError U32 × InterruptController
  | .read .pending => (.ok controller.pending, controller)
  | .read .enable => (.ok controller.enable, controller)
  | .read .setPending => (.ok 0, controller)
  | .read .claimComplete => (.ok controller.claimNext.1, controller.claimNext.2)
  | .read .route => (.ok controller.route.registerBits, controller)
  | .write .pending _ => (.error (.readOnlyAddress controller.range.start), controller)
  | .write .enable value => (.ok 0, { controller with enable := value })
  | .write .setPending value =>
    (.ok 0, { controller with pending := controller.pending ||| value &&& ~~~controller.claimed })
  | .write .claimComplete value => (.ok 0, controller.completeSource value)
  | .write .route value => (.ok 0, { controller with route := InterruptRoute.fromRegister value })

/-! ## The bytes of an access -/

/-- The registers have addresses: the last one is not behind the end of the address space. -/
def Mapped (controller : InterruptController) : Prop :=
  controller.range.size = 20 ∧ controller.range.start.toNat + 20 < 2 ^ 64

/-- Between two words nothing is latched or staged. -/
structure Rests (controller : InterruptController) : Prop where
  latch : controller.claimLatch = none
  staging : controller.completeStaging = #v[0, 0, 0, 0]

/-- The offset of a byte of a register. -/
theorem offset_at {controller : InterruptController} (h : controller.Mapped) {offset : Nat}
    (hoffset : offset < 20) :
    controller.offset (controller.range.start + BitVec.ofNat 64 offset) = .ok (BitVec.ofNat 64 offset) := by
  obtain ⟨hsize, hfit⟩ := h
  have haddr : (controller.range.start + BitVec.ofNat 64 offset).toNat =
      controller.range.start.toNat + offset := by
    rw [BitVec.toNat_add, BitVec.toNat_ofNat]
    omega
  have hend : controller.range.endAddress.toNat = controller.range.start.toNat + 20 := by
    have htwenty : (20 : U64).toNat = 20 := rfl
    rw [AddressRange.endAddress, hsize, BitVec.toNat_add, htwenty]
    omega
  have hcontains : controller.range.contains (controller.range.start + BitVec.ofNat 64 offset) = true := by
    rw [AddressRange.contains, Bool.and_eq_true, decide_eq_true_iff, decide_eq_true_iff, BitVec.le_def,
      BitVec.lt_def]
    omega
  unfold InterruptController.offset
  rw [if_pos hcontains, BitVec.add_comm, BitVec.add_sub_cancel]

theorem load8_at {controller : InterruptController} (h : controller.Mapped) {offset : Nat}
    (hoffset : offset < 20) :
    controller.load8 (controller.range.start + BitVec.ofNat 64 offset) =
      (let latched :=
        if BitVec.ofNat 64 offset = claimCompleteOffset then
          { controller.claimNext.2 with claimLatch := some controller.claimNext.1 }
        else controller
      (.ok (latched.readRegisterByte (BitVec.ofNat 64 offset)),
        if BitVec.ofNat 64 offset = claimCompleteOffset + 3 then { latched with claimLatch := none }
        else latched)) := by
  unfold load8
  rw [offset_at h hoffset]

theorem store8_at {controller : InterruptController} (h : controller.Mapped) {offset : Nat}
    (hoffset : offset < 20) (value : U8) :
    controller.store8 (controller.range.start + BitVec.ofNat 64 offset) value =
      controller.storeRegister (controller.range.start + BitVec.ofNat 64 offset)
        (BitVec.ofNat 64 offset) value := by
  unfold store8
  rw [offset_at h hoffset]

/-- Four bytes that are read. -/
theorem loadBytesFrom_four {D : Type} [Addressable D] {d0 d1 d2 d3 d4 : D} {addr : Address}
    {b0 b1 b2 b3 : U8} (h0 : Addressable.load8 d0 (addr + 0) = (.ok b0, d1))
    (h1 : Addressable.load8 d1 (addr + 1) = (.ok b1, d2))
    (h2 : Addressable.load8 d2 (addr + 2) = (.ok b2, d3))
    (h3 : Addressable.load8 d3 (addr + 3) = (.ok b3, d4)) :
    MemoryMap.loadBytesFrom d0 addr 0 4 = (.ok [b0, b1, b2, b3], d4) := by
  unfold MemoryMap.loadBytesFrom
  rw [show BitVec.ofNat 64 0 = 0 from rfl, h0]
  dsimp only
  unfold MemoryMap.loadBytesFrom
  rw [show BitVec.ofNat 64 (0 + 1) = 1 from rfl, h1]
  dsimp only
  unfold MemoryMap.loadBytesFrom
  rw [show BitVec.ofNat 64 (0 + 1 + 1) = 2 from rfl, h2]
  dsimp only
  unfold MemoryMap.loadBytesFrom
  rw [show BitVec.ofNat 64 (0 + 1 + 1 + 1) = 3 from rfl, h3]
  rfl

/-- Four bytes that are written. -/
theorem storeBytesFrom_four {D : Type} [Addressable D] {d0 d1 d2 d3 d4 : D} {addr : Address}
    {b0 b1 b2 b3 : U8} (h0 : Addressable.store8 d0 (addr + 0) b0 = (.ok (), d1))
    (h1 : Addressable.store8 d1 (addr + 1) b1 = (.ok (), d2))
    (h2 : Addressable.store8 d2 (addr + 2) b2 = (.ok (), d3))
    (h3 : Addressable.store8 d3 (addr + 3) b3 = (.ok (), d4)) :
    MemoryMap.storeBytesFrom d0 addr 0 [b0, b1, b2, b3] = (.ok (), d4) := by
  unfold MemoryMap.storeBytesFrom
  rw [show BitVec.ofNat 64 0 = 0 from rfl, h0]
  dsimp only
  unfold MemoryMap.storeBytesFrom
  rw [show BitVec.ofNat 64 (0 + 1) = 1 from rfl, h1]
  dsimp only
  unfold MemoryMap.storeBytesFrom
  rw [show BitVec.ofNat 64 (0 + 1 + 1) = 2 from rfl, h2]
  dsimp only
  unfold MemoryMap.storeBytesFrom
  rw [show BitVec.ofNat 64 (0 + 1 + 1 + 1) = 3 from rfl, h3]
  rfl

/-- The word of the four bytes of a word. -/
theorem fromLeBytes_padBytes (value : U32) :
    fromLeBytes (MemoryMap.padBytes (toLeBytes value).toList) = value := by
  have hbytes : MemoryMap.padBytes (toLeBytes value).toList = toLeBytes value := by
    ext i hi
    unfold MemoryMap.padBytes
    rw [Vector.getElem_ofFn]
    match i, hi with
    | 0, _ | 1, _ | 2, _ | 3, _ => rfl
  rw [hbytes, fromLeBytes_toLeBytes]

/-! ### Reads -/

/-- A byte outside the claim register is read without an effect. -/
theorem load8_quiet {controller : InterruptController} (h : controller.Mapped) {offset : Nat}
    (hoffset : offset < 20) (hfirst : offset ≠ 12) (hlast : offset ≠ 15) :
    controller.load8 (controller.range.start + BitVec.ofNat 64 offset) =
      (.ok (controller.readRegisterByte (BitVec.ofNat 64 offset)), controller) := by
  have hne {n : Nat} (hn : n < 20) (hdiff : offset ≠ n) : BitVec.ofNat 64 offset ≠ BitVec.ofNat 64 n := by
    intro heq
    have := congrArg BitVec.toNat heq
    rw [BitVec.toNat_ofNat, BitVec.toNat_ofNat] at this
    omega
  rw [load8_at h hoffset]
  dsimp only
  rw [if_neg (show BitVec.ofNat 64 offset ≠ claimCompleteOffset from hne (n := 12) (by decide) hfirst),
    if_neg (show BitVec.ofNat 64 offset ≠ claimCompleteOffset + 3 from hne (n := 15) (by decide) hlast)]

/-- A register that is read without an effect. -/
theorem loadBytesFrom_quiet {controller : InterruptController} (h : controller.Mapped) (base : Nat)
    (hfits : base + 3 < 20) (hquiet : base + 3 < 12 ∨ 15 < base) (value : U32)
    (h0 : controller.readRegisterByte (BitVec.ofNat 64 base) = (toLeBytes value).get 0)
    (h1 : controller.readRegisterByte (BitVec.ofNat 64 (base + 1)) = (toLeBytes value).get 1)
    (h2 : controller.readRegisterByte (BitVec.ofNat 64 (base + 2)) = (toLeBytes value).get 2)
    (h3 : controller.readRegisterByte (BitVec.ofNat 64 (base + 3)) = (toLeBytes value).get 3) :
    MemoryMap.loadBytesFrom controller (controller.range.start + BitVec.ofNat 64 base) 0 4 =
      (.ok (toLeBytes value).toList, controller) := by
  have hbyte (i : Nat) (hi : i ≤ 3) {byte : U8}
      (hvalue : controller.readRegisterByte (BitVec.ofNat 64 (base + i)) = byte) :
      Addressable.load8 controller
        (controller.range.start + BitVec.ofNat 64 base + BitVec.ofNat 64 i) = (.ok byte, controller) := by
    rw [BitVec.add_assoc, ← BitVec.ofNat_add, ← hvalue]
    exact load8_quiet h (by omega) (by omega) (by omega)
  exact loadBytesFrom_four (hbyte 0 (by decide) h0) (hbyte 1 (by decide) h1) (hbyte 2 (by decide) h2)
    (hbyte 3 (by decide) h3)

/-- A claim changes the sets only. -/
theorem claimNext_frame (controller : InterruptController) :
    controller.claimNext.2.range = controller.range ∧
      controller.claimNext.2.claimLatch = controller.claimLatch ∧
      controller.claimNext.2.completeStaging = controller.completeStaging ∧
      controller.claimNext.2.enable = controller.enable ∧
      controller.claimNext.2.route = controller.route := by
  unfold claimNext
  dsimp only
  split <;> exact ⟨rfl, rfl, rfl, rfl, rfl⟩

/-- The first byte of the claim register claims, and the last one forgets what was claimed. -/
theorem loadBytesFrom_claim {controller : InterruptController} (h : controller.Mapped)
    (hrests : controller.Rests) :
    MemoryMap.loadBytesFrom controller (controller.range.start + claimCompleteOffset) 0 4 =
      (.ok (toLeBytes controller.claimNext.1).toList, controller.claimNext.2) := by
  obtain ⟨hrange, hlatch, -, -, -⟩ := controller.claimNext_frame
  have hlatched : Mapped { controller.claimNext.2 with claimLatch := some controller.claimNext.1 } := by
    unfold Mapped
    rw [hrange]
    exact h
  have hnone : { controller.claimNext.2 with claimLatch := none } = controller.claimNext.2 := by
    rw [← hrests.latch, ← hlatch]
  have haddr (i : Nat) : controller.range.start + claimCompleteOffset + BitVec.ofNat 64 i =
      controller.claimNext.2.range.start + BitVec.ofNat 64 (12 + i) := by
    rw [hrange, BitVec.add_assoc, BitVec.ofNat_add]
    rfl
  have h0 := load8_at h (show 12 < 20 by decide)
  have h1 := load8_at hlatched (show 13 < 20 by decide)
  have h2 := load8_at hlatched (show 14 < 20 by decide)
  have h3 := load8_at hlatched (show 15 < 20 by decide)
  rw [← hrange] at h0
  refine loadBytesFrom_four ((congrArg _ (haddr 0)).trans h0) ((congrArg _ (haddr 1)).trans h1)
    ((congrArg _ (haddr 2)).trans h2) ((congrArg _ (haddr 3)).trans (h3.trans ?_))
  exact congrArg (Prod.mk _) hnone

/-! ### Writes -/

/-- Four bytes that are set one after the other. -/
theorem set_four (bytes data : Vector U8 4) :
    ([0, 1, 2, 3] : List (Fin 4)).foldl (fun bytes i => bytes.set i (data.get i) i.isLt) bytes = data := by
  refine Vector.ext fun i hi => ?_
  simp only [List.foldl_cons, List.foldl_nil, Vector.getElem_set]
  match i, hi with
  | 0, _ | 1, _ | 2, _ | 3, _ => rfl

theorem writeU32Byte_four (word value : U32) :
    writeU32Byte (writeU32Byte (writeU32Byte (writeU32Byte word 0 ((toLeBytes value).get 0)) 1
      ((toLeBytes value).get 1)) 2 ((toLeBytes value).get 2)) 3 ((toLeBytes value).get 3) = value := by
  simp only [writeU32Byte, toLeBytes_fromLeBytes]
  have hset := set_four (toLeBytes word) (toLeBytes value)
  exact (congrArg fromLeBytes hset).trans (fromLeBytes_toLeBytes value)

/-- The bytes of a mask, in their places. -/
theorem mask_four (value : U32) :
    (((toLeBytes value).get 0).setWidth 32 <<< 0 ||| ((toLeBytes value).get 1).setWidth 32 <<< 8 |||
      ((toLeBytes value).get 2).setWidth 32 <<< 16 ||| ((toLeBytes value).get 3).setWidth 32 <<< 24 : U32) =
        value := by
  show (value.setWidth 8).setWidth 32 <<< 0 ||| ((value >>> 8).setWidth 8).setWidth 32 <<< 8 |||
    ((value >>> 16).setWidth 8).setWidth 32 <<< 16 ||| ((value >>> 24).setWidth 8).setWidth 32 <<< 24 = value
  refine BitVec.eq_of_getLsbD_eq fun i hi => ?_
  simp only [BitVec.getLsbD_or, BitVec.getLsbD_shiftLeft, BitVec.getLsbD_setWidth,
    BitVec.getLsbD_ushiftRight]
  by_cases h8 : i < 8
  · simp [hi, h8, show i < 16 by omega, show i < 24 by omega]
  · by_cases h16 : i < 16
    · simp [hi, h8, h16, show i < 24 by omega, show i - 8 < 8 by omega, show i - 8 < 32 by omega,
        show 8 + (i - 8) = i by omega]
    · by_cases h24 : i < 24
      · simp [hi, h8, h16, h24, show ¬ i - 8 < 8 by omega, show i - 16 < 8 by omega,
          show i - 16 < 32 by omega, show 16 + (i - 16) = i by omega]
      · simp [hi, h8, h16, h24, show ¬ i - 8 < 8 by omega, show ¬ i - 16 < 8 by omega,
          show i - 24 < 8 by omega, show i - 24 < 32 by omega, show 24 + (i - 24) = i by omega]

/-- Four masks that are cut to the same bits and set one after the other. -/
theorem or_four (word a b c d kept : U32) :
    word ||| a &&& kept ||| b &&& kept ||| c &&& kept ||| d &&& kept =
      word ||| (a ||| b ||| c ||| d) &&& kept := by
  ext i hi
  simp only [BitVec.getElem_or, BitVec.getElem_and]
  cases kept[i] <;> simp [Bool.or_assoc]

/-- A byte goes to its place in the register file. -/
theorem store8_register (controller : InterruptController) {after : InterruptController}
    (h : controller.Mapped) (base i : Nat) (hoffset : base + i < 20) {value : U8}
    (hstore : ∀ addr, controller.storeRegister addr (BitVec.ofNat 64 (base + i)) value = (.ok (), after)) :
    Addressable.store8 controller
      (controller.range.start + BitVec.ofNat 64 base + BitVec.ofNat 64 i) value = (.ok (), after) := by
  rw [BitVec.add_assoc, ← BitVec.ofNat_add, ← hstore]
  exact store8_at h hoffset value

theorem storeBytesFrom_enable {controller : InterruptController} (h : controller.Mapped) (value : U32) :
    MemoryMap.storeBytesFrom controller (controller.range.start + BitVec.ofNat 64 4) 0
      (toLeBytes value).toList = (.ok (), { controller with enable := value }) := by
  have hbyte (word : U32) (i : Nat) (hi : i < 4) (byte : U8) :
      Addressable.store8 { controller with enable := word }
          (controller.range.start + BitVec.ofNat 64 4 + BitVec.ofNat 64 i) byte =
        (.ok (), { controller with enable := writeU32Byte word ⟨i, hi⟩ byte }) := by
    refine store8_register { controller with enable := word } h 4 i (by omega) fun addr => ?_
    match i, hi with
    | 0, _ | 1, _ | 2, _ | 3, _ => rfl
  refine (storeBytesFrom_four (hbyte controller.enable 0 (by decide) _) (hbyte _ 1 (by decide) _)
    (hbyte _ 2 (by decide) _) (hbyte _ 3 (by decide) _)).trans ?_
  exact congrArg (fun word => ((.ok () : Except BusError Unit), { controller with enable := word }))
    (writeU32Byte_four controller.enable value)

theorem storeBytesFrom_setPending {controller : InterruptController} (h : controller.Mapped)
    (value : U32) :
    MemoryMap.storeBytesFrom controller (controller.range.start + BitVec.ofNat 64 8) 0
        (toLeBytes value).toList =
      (.ok (), { controller with pending := controller.pending ||| value &&& ~~~controller.claimed }) := by
  have hbyte (word : U32) (i : Nat) (hi : i < 4) (byte : U8) :
      Addressable.store8 { controller with pending := word }
          (controller.range.start + BitVec.ofNat 64 8 + BitVec.ofNat 64 i) byte =
        (.ok (), { controller with
          pending := word ||| byte.setWidth 32 <<< (8 * i) &&& ~~~controller.claimed }) := by
    refine store8_register { controller with pending := word } h 8 i (by omega) fun addr => ?_
    match i, hi with
    | 0, _ | 1, _ | 2, _ | 3, _ => rfl
  refine (storeBytesFrom_four (hbyte controller.pending 0 (by decide) _) (hbyte _ 1 (by decide) _)
    (hbyte _ 2 (by decide) _) (hbyte _ 3 (by decide) _)).trans ?_
  refine congrArg (fun word => ((.ok () : Except BusError Unit), { controller with pending := word })) ?_
  conv_rhs => rw [← mask_four value]
  exact or_four _ _ _ _ _ _

theorem storeBytesFrom_route {controller : InterruptController} (h : controller.Mapped) (value : U32) :
    MemoryMap.storeBytesFrom controller (controller.range.start + BitVec.ofNat 64 16) 0
      (toLeBytes value).toList =
        (.ok (), { controller with route := InterruptRoute.fromRegister value }) := by
  have hbyte (route : InterruptRoute) (i : Nat) (hi : i < 4) (byte : U8) :
      Addressable.store8 { controller with route }
          (controller.range.start + BitVec.ofNat 64 16 + BitVec.ofNat 64 i) byte =
        (.ok (), { controller with
          route := InterruptRoute.fromRegister (writeU32Byte route.registerBits ⟨i, hi⟩ byte) }) := by
    refine store8_register { controller with route } h 16 i (by omega) fun addr => ?_
    match i, hi with
    | 0, _ | 1, _ | 2, _ | 3, _ => rfl
  refine (storeBytesFrom_four (hbyte controller.route 0 (by decide) _) (hbyte _ 1 (by decide) _)
    (hbyte _ 2 (by decide) _) (hbyte _ 3 (by decide) _)).trans ?_
  refine congrArg (fun route => ((.ok () : Except BusError Unit), { controller with route })) ?_
  rw [InterruptRoute.fromRegister_writeU32Byte _ (by decide),
    InterruptRoute.fromRegister_writeU32Byte _ (by decide),
    InterruptRoute.fromRegister_writeU32Byte _ (by decide)]
  refine InterruptRoute.fromRegister_congr ?_
  rw [toLeBytes_writeU32Byte]
  rfl

theorem storeBytesFrom_complete {controller : InterruptController} (h : controller.Mapped)
    (hrests : controller.Rests) (value : U32) :
    MemoryMap.storeBytesFrom controller (controller.range.start + BitVec.ofNat 64 12) 0
      (toLeBytes value).toList = (.ok (), controller.completeSource value) := by
  have hbyte (staging : Vector U8 4) (i : Nat) (hi : i < 3) (byte : U8) :
      Addressable.store8 { controller with completeStaging := staging }
          (controller.range.start + BitVec.ofNat 64 12 + BitVec.ofNat 64 i) byte =
        (.ok (), { controller with completeStaging := staging.set i byte }) := by
    refine store8_register { controller with completeStaging := staging } h 12 i (by omega) fun addr => ?_
    match i, hi with
    | 0, _ | 1, _ | 2, _ => rfl
  have hlast (staging : Vector U8 4) (byte : U8) :
      Addressable.store8 { controller with completeStaging := staging }
          (controller.range.start + BitVec.ofNat 64 12 + BitVec.ofNat 64 3) byte =
        (.ok (), { controller.completeSource (fromLeBytes (staging.set 3 byte)) with
          completeStaging := #v[0, 0, 0, 0] }) :=
    store8_register { controller with completeStaging := staging } h 12 3 (by decide) fun _ => rfl
  refine (storeBytesFrom_four (hbyte controller.completeStaging 0 (by decide) _)
    (hbyte _ 1 (by decide) _) (hbyte _ 2 (by decide) _) (hlast _ _)).trans ?_
  have hword := (congrArg fromLeBytes (set_four controller.completeStaging (toLeBytes value))).trans
    (fromLeBytes_toLeBytes value)
  refine congrArg (fun word => ((.ok () : Except BusError Unit),
    { controller.completeSource word with completeStaging := #v[0, 0, 0, 0] })) hword |>.trans ?_
  rw [← hrests.staging]
  rfl

/-- The pending register refuses a write. -/
theorem storeBytesFrom_pending {controller : InterruptController} (h : controller.Mapped) (value : U32) :
    MemoryMap.storeBytesFrom controller (controller.range.start + BitVec.ofNat 64 0) 0
      (toLeBytes value).toList = (.error (.readOnlyAddress controller.range.start), controller) := by
  have hfirst : Addressable.store8 controller
      (controller.range.start + BitVec.ofNat 64 0 + BitVec.ofNat 64 0) ((toLeBytes value).get 0) =
        (.error (.readOnlyAddress controller.range.start), controller) := by
    have hzero : controller.range.start + BitVec.ofNat 64 0 = controller.range.start := BitVec.add_zero _
    have hstore := store8_at h (show 0 < 20 by decide) ((toLeBytes value).get 0)
    rw [hzero] at hstore ⊢
    rw [hzero]
    exact hstore
  show MemoryMap.storeBytesFrom _ _ 0
    [(toLeBytes value).get 0, (toLeBytes value).get 1, (toLeBytes value).get 2, (toLeBytes value).get 3] = _
  unfold MemoryMap.storeBytesFrom
  rw [hfirst]

/-! ### A word is one step -/

/-- **The bytes of an access are one step.** -/
theorem access_eq {controller : InterruptController} (h : controller.Mapped) (hrests : controller.Rests)
    (word : WordAccess) : controller.access word = controller.wordStep word := by
  have hread {register : Register} {value : U32} {after : InterruptController}
      (hload : MemoryMap.loadBytesFrom controller (controller.range.start + register.offset) 0 4 =
        (.ok (toLeBytes value).toList, after)) : controller.access (.read register) = (.ok value, after) := by
    unfold access
    dsimp only
    rw [hload]
    exact congrArg (fun word => ((.ok word : Except BusError U32), after)) (fromLeBytes_padBytes value)
  have hwrite (register : Register) {value : U32} {answer : Except BusError Unit}
      {after : InterruptController}
      (hstore : MemoryMap.storeBytesFrom controller (controller.range.start + register.offset) 0
        (toLeBytes value).toList = (answer, after)) :
      controller.access (.write register value) = (answer.map fun _ => 0, after) := by
    unfold access
    dsimp only
    rw [hstore]
  cases word with
  | read register =>
    cases register with
    | pending =>
      exact hread (loadBytesFrom_quiet h 0 (by decide) (by decide) controller.pending rfl rfl rfl rfl)
    | enable =>
      exact hread (loadBytesFrom_quiet h 4 (by decide) (by decide) controller.enable rfl rfl rfl rfl)
    | setPending =>
      exact hread (loadBytesFrom_quiet h 8 (by decide) (by decide) 0 rfl rfl rfl rfl)
    | claimComplete => exact hread (loadBytesFrom_claim h hrests)
    | route =>
      exact hread (loadBytesFrom_quiet h 16 (by decide) (by decide) controller.route.registerBits
        rfl rfl rfl rfl)
  | write register value =>
    cases register with
    | pending => exact (hwrite .pending (storeBytesFrom_pending h value)).trans rfl
    | enable => exact (hwrite .enable (storeBytesFrom_enable h value)).trans rfl
    | setPending => exact (hwrite .setPending (storeBytesFrom_setPending h value)).trans rfl
    | claimComplete => exact (hwrite .claimComplete (storeBytesFrom_complete h hrests value)).trans rfl
    | route => exact (hwrite .route (storeBytesFrom_route h value)).trans rfl

/-- A controller whose registers go past the end of the address space refuses every access. -/
theorem access_unmapped {controller : InterruptController} (hsize : controller.range.size = 20)
    (h : ¬ controller.Mapped) (word : WordAccess) :
    ∃ error, controller.access word = (.error error, controller) := by
  have hoffset (addr : Address) : controller.offset addr = .error (.unmappedAddress addr) := by
    unfold InterruptController.offset
    refine if_neg fun hcontains => h ⟨hsize, ?_⟩
    rw [AddressRange.contains, Bool.and_eq_true, decide_eq_true_iff, decide_eq_true_iff, BitVec.le_def,
      BitVec.lt_def, AddressRange.endAddress, hsize, BitVec.toNat_add] at hcontains
    have htwenty : (20 : U64).toNat = 20 := rfl
    have hlt := controller.range.start.isLt
    omega
  cases word with
  | read register =>
    refine ⟨.unmappedAddress (controller.range.start + register.offset + BitVec.ofNat 64 0), ?_⟩
    have hload (addr : Address) : Addressable.load8 controller addr =
        (.error (.unmappedAddress addr), controller) := by
      show controller.load8 addr = _
      unfold load8
      rw [hoffset]
    unfold access MemoryMap.loadBytesFrom
    dsimp only
    rw [hload]
    rfl
  | write register value =>
    refine ⟨.unmappedAddress (controller.range.start + register.offset + BitVec.ofNat 64 0), ?_⟩
    have hstore (addr : Address) (byte : U8) : Addressable.store8 controller addr byte =
        (.error (.unmappedAddress addr), controller) := by
      show controller.store8 addr byte = _
      unfold store8
      rw [hoffset]
    have hbytes : (toLeBytes value).toList =
        [(toLeBytes value).get 0, (toLeBytes value).get 1, (toLeBytes value).get 2,
          (toLeBytes value).get 3] := rfl
    unfold access
    dsimp only
    rw [hbytes]
    unfold MemoryMap.storeBytesFrom
    rw [hstore]
    rfl

end InterruptController

end RvSim
