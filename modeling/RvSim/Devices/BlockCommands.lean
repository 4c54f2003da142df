import RvSim.Automata.Run
import RvSim.Devices.BlockDevice

/-!
# The commands of the block device

A command takes many ticks, and software may go on writing the registers and the data window before it
completes. The device copies neither the selected block nor the window when a command starts: a command acts
on what it finds when it completes.

## Main definitions

* `BlockStep`: an access to the device, or a tick
* `StartedCommand`: a command, and the device as it was when the command started
* `BlockHistory`: the device, and the command that it is busy with
* `StartedCommand.CompletedBy`: the command did what it was started for
* `StartedCommand.AsStarted`: the device is still as the command needs it

## Main results

* `BlockHistory.step_cases`: a step completes a command, or keeps what holds of the one in progress
* `StartedCommand.completedBy_iff`: the completions that do what the command was started for
* `completesAsStarted_iff`: the runs in which every command does
-/

namespace RvSim

open Automata

namespace BlockDevice

/-- The contents of a block. -/
def blockAt (blockBytes : Nat) (storage : List U8) (block : U32) : List U8 :=
  (storage.drop (block.toNat * blockBytes)).take blockBytes

/-- The window holds a block, and the storage all of them. -/
structure Shaped (device : BlockDevice) : Prop where
  staging : device.staging.length = device.blockBytes
  storage : device.storage.length = device.blockCount.toNat * device.blockBytes

/-- The device with other flags and no command. -/
def settled (device : BlockDevice) (irq done error : Bool) : BlockDevice :=
  { device with irqEnabled := irq, done := done, error := error, active := none }

theorem shaped_new (base : Address) (blockCount : U32) (blockBytes : Nat) (operationLatency : U32)
    (blockCount_pos : 0 < blockCount) (blockBytes_words : 0 < blockBytes ∧ blockBytes % 4 = 0) :
    (new base blockCount blockBytes operationLatency blockCount_pos blockBytes_words).Shaped :=
  ⟨List.length_replicate, List.length_replicate⟩

theorem Shaped.settled {device : BlockDevice} (h : device.Shaped) (irq done error : Bool) :
    (device.settled irq done error).Shaped :=
  ⟨h.staging, h.storage⟩

/-- The command that a byte of the control register asks for. -/
def requested (value : U8) : Option BlockCommand :=
  match (value.setWidth 32 &&& controlStartRead) != 0, (value.setWidth 32 &&& controlStartWrite) != 0 with
  | true, false => some .readBlock
  | false, true => some .writeBlock
  | _, _ => none

/-- A start bit is set. -/
def attempts (value : U8) : Bool :=
  (value.setWidth 32 &&& controlStartRead) != 0 || (value.setWidth 32 &&& controlStartWrite) != 0

end BlockDevice

/-- An access to the device, or a tick. -/
inductive BlockStep
  | store (addr : Address) (value : U8)
  | load (addr : Address)
  | tick
  deriving DecidableEq

namespace BlockStep

def next (device : BlockDevice) : BlockStep → BlockDevice
  | .store addr value => (device.store8 addr value).2
  | .load addr => (device.load8 addr).2
  | .tick => device.tick

/-- The value of a store to the control register. -/
def control (device : BlockDevice) : BlockStep → Option U8
  | .store addr value =>
    if device.offset addr = .ok BlockDevice.controlOffset then some value else none
  | _ => none

theorem control_store {device : BlockDevice} {addr : Address} {value : U8}
    (h : device.offset addr = .ok BlockDevice.controlOffset) :
    (BlockStep.store addr value).control device = some value :=
  if_pos h

end BlockStep

/-- A command, and the device as it was when the command started. -/
structure StartedCommand where
  kind : BlockCommand
  block : U32
  staging : List U8
  storage : List U8
  /-- A further start has been attempted since. -/
  attempted : Bool := false

/-- A command that starts now. -/
def BlockDevice.starting (device : BlockDevice) (kind : BlockCommand) : StartedCommand where
  kind
  block := device.selectedBlock
  staging := device.staging
  storage := device.storage

namespace StartedCommand

variable (started : StartedCommand) (device : BlockDevice)

/-- **The command did what it was started for**: the device holds its outcome. -/
structure CompletedBy : Prop where
  storage : ∀ block < device.blockCount,
    BlockDevice.blockAt device.blockBytes device.storage block =
      if started.kind = .writeBlock ∧ block = started.block then started.staging
      else BlockDevice.blockAt device.blockBytes started.storage block
  loaded : started.kind = .readBlock → started.block < device.blockCount →
    device.staging = BlockDevice.blockAt device.blockBytes started.storage started.block
  done : started.block < device.blockCount → device.done = true
  noError : started.block < device.blockCount → started.attempted = false → device.error = false

/-- The device is still as the command needs it: a valid block is selected if one was, and what the
command copies, and what it leaves, has the contents it should. -/
def AsStarted : Prop :=
  (started.block < device.blockCount → device.selectedBlock < device.blockCount) ∧
    match started.kind with
    | .readBlock => started.block < device.blockCount →
        BlockDevice.blockAt device.blockBytes device.storage device.selectedBlock =
          BlockDevice.blockAt device.blockBytes device.storage started.block
    | .writeBlock =>
        if device.selectedBlock = started.block then
          started.block < device.blockCount → device.staging = started.staging
        else
          (device.selectedBlock < device.blockCount →
            BlockDevice.blockAt device.blockBytes device.storage device.selectedBlock = device.staging) ∧
          (started.block < device.blockCount →
            BlockDevice.blockAt device.blockBytes device.storage started.block = started.staging)

end StartedCommand

/-- The device, and the command that it is busy with. -/
structure BlockHistory where
  device : BlockDevice
  started : Option StartedCommand := none

namespace BlockHistory

variable (history : BlockHistory) (step : BlockStep)

/-- The command in progress during a step. -/
def record : Option StartedCommand :=
  match step.control history.device, history.started with
  | none, started => started
  | some value, some started =>
    some { started with attempted := started.attempted || BlockDevice.attempts value }
  | some value, none => (BlockDevice.requested value).map history.device.starting

/-- A step, and the command that is in progress behind it. -/
def next : BlockHistory where
  device := step.next history.device
  started := if (step.next history.device).active.isSome then history.record step else none

/-- The command that a step completes. -/
def finished : Option StartedCommand :=
  if (step.next history.device).active.isSome then none else history.record step

/-- The commands that the step completes do what they were started for. -/
def CompletesRight : Prop :=
  ∀ started ∈ history.finished step, started.CompletedBy (step.next history.device)

/-- The commands that the step completes find the device as they need it. -/
def CompletesAsStarted : Prop :=
  ∀ started ∈ history.finished step, started.AsStarted history.device

end BlockHistory

/-! ## What one access does -/

namespace BlockDevice

variable {device : BlockDevice}

/-- A block of the storage in which one block is replaced. -/
theorem blockAt_replace {blockBytes : Nat} {storage staging : List U8} {selected : U32}
    (hstaging : staging.length = blockBytes)
    (hstorage : selected.toNat * blockBytes + blockBytes ≤ storage.length) (block : U32) :
    blockAt blockBytes (storage.take (selected.toNat * blockBytes) ++ staging ++
        storage.drop (selected.toNat * blockBytes + blockBytes)) block =
      if block = selected then staging else blockAt blockBytes storage block := by
  have htake : (storage.take (selected.toNat * blockBytes)).length = selected.toNat * blockBytes := by
    rw [List.length_take]
    omega
  unfold blockAt
  by_cases heq : block = selected
  · subst heq
    rw [if_pos rfl, List.append_assoc, List.drop_append_of_le_length htake.ge,
      List.drop_of_length_le htake.le, List.nil_append, List.take_append_of_le_length hstaging.ge,
      List.take_of_length_le hstaging.le]
  · rw [if_neg heq]
    refine List.ext_getElem? fun i => ?_
    rw [List.getElem?_take, List.getElem?_take]
    split
    · rename_i hi
      rw [List.getElem?_drop, List.getElem?_drop, List.append_assoc]
      rcases Nat.lt_or_gt_of_ne fun h => heq (BitVec.toNat_inj.1 h) with hlt | hlt
      · -- the block is in front of the one that is replaced
        have hle := Nat.mul_le_mul_right blockBytes (show block.toNat + 1 ≤ selected.toNat from hlt)
        rw [Nat.add_mul, Nat.one_mul] at hle
        rw [List.getElem?_append_left (by omega), List.getElem?_take_of_lt (by omega)]
      -- the block is behind it
      · have hle := Nat.mul_le_mul_right blockBytes (show selected.toNat + 1 ≤ block.toNat from hlt)
        rw [Nat.add_mul, Nat.one_mul] at hle
        rw [List.getElem?_append_right (by omega), List.getElem?_append_right (by omega),
          List.getElem?_drop, htake, hstaging]
        congr 1
        omega
    · rfl

theorem Shaped.le_storage (h : device.Shaped) {block : U32} (hblock : block < device.blockCount) :
    block.toNat * device.blockBytes + device.blockBytes ≤ device.storage.length := by
  have hle := Nat.mul_le_mul_right device.blockBytes
    (show block.toNat + 1 ≤ device.blockCount.toNat from BitVec.lt_def.1 hblock)
  rwa [Nat.add_mul, Nat.one_mul, ← h.storage] at hle

theorem length_blockAt (h : device.Shaped) {block : U32} (hblock : block < device.blockCount) :
    (blockAt device.blockBytes device.storage block).length = device.blockBytes := by
  have hle := h.le_storage hblock
  rw [blockAt, List.length_take, List.length_drop]
  omega

theorem finishCommand_of_invalid (h : ¬ device.selectedBlock < device.blockCount) (kind : BlockCommand) :
    device.finishCommand kind = { device with error := true, done := false } := by
  unfold finishCommand blockRange
  rw [if_pos (BitVec.not_lt.1 h)]

theorem finishCommand_read (h : device.selectedBlock < device.blockCount) :
    device.finishCommand .readBlock =
      { device with
        staging := blockAt device.blockBytes device.storage device.selectedBlock
        done := true } := by
  unfold finishCommand blockRange
  rw [if_neg (BitVec.not_le.2 h)]
  rfl

theorem finishCommand_write (h : device.selectedBlock < device.blockCount) :
    device.finishCommand .writeBlock =
      { device with
        storage := device.storage.take (device.selectedBlock.toNat * device.blockBytes) ++
          device.staging ++
            device.storage.drop (device.selectedBlock.toNat * device.blockBytes + device.blockBytes)
        done := true } := by
  unfold finishCommand blockRange
  rw [if_neg (BitVec.not_le.2 h)]

@[simp] theorem active_finishCommand (kind : BlockCommand) :
    (device.finishCommand kind).active = device.active := by
  unfold finishCommand
  cases device.blockRange device.selectedBlock <;> cases kind <;> rfl

theorem Shaped.finishCommand (h : device.Shaped) (kind : BlockCommand) :
    (device.finishCommand kind).Shaped := by
  by_cases hvalid : device.selectedBlock < device.blockCount
  · have hle := h.le_storage hvalid
    cases kind with
    | readBlock =>
      rw [finishCommand_read hvalid]
      exact ⟨length_blockAt h hvalid, h.storage⟩
    | writeBlock =>
      rw [finishCommand_write hvalid]
      refine ⟨h.staging, ?_⟩
      simp only [List.length_append, List.length_take, List.length_drop, h.staging]
      rw [← h.storage]
      omega
  · rw [finishCommand_of_invalid hvalid]
    exact ⟨h.staging, h.storage⟩

/-- A store elsewhere changes the selected block, the window or the route. -/
theorem store8_of_ne_control {addr : Address} (h : device.offset addr ≠ .ok controlOffset) (value : U8) :
    ∃ selected staging route, staging.length = device.staging.length ∧
      (device.store8 addr value).2 =
        { device with selectedBlock := selected, staging := staging, interruptRoute := route } := by
  unfold store8
  cases hoffset : device.offset addr with
  | error => exact ⟨_, _, _, rfl, rfl⟩
  | ok offset =>
    dsimp only
    unfold storeRegister
    dsimp only
    split_ifs with _ _ hcontrol
    · exact ⟨_, _, _, rfl, rfl⟩
    · exact absurd (hoffset.trans (congrArg _ hcontrol)) h
    · exact ⟨_, _, _, rfl, rfl⟩
    · exact ⟨_, _, _, rfl, rfl⟩
    · exact ⟨_, _, _, rfl, rfl⟩
    · exact ⟨_, _, _, List.length_set, rfl⟩
    · exact ⟨_, _, _, rfl, rfl⟩

theorem store8_of_control {addr : Address} (h : device.offset addr = .ok controlOffset) (value : U8) :
    (device.store8 addr value).2 = device.applyControlByte value := by
  unfold store8
  rw [h]
  rfl

/-- Behind the flags that a byte of the control register clears, its start bits decide. -/
theorem applyControlByte_eq (device : BlockDevice) (value : U8) :
    ∃ irq done error, (device.error = false → error = false) ∧
      device.applyControlByte value =
        match (value.setWidth 32 &&& controlStartRead) != 0,
          (value.setWidth 32 &&& controlStartWrite) != 0 with
        | true, false =>
          { device with irqEnabled := irq, done := done, error := error }.startCommand .readBlock
        | false, true =>
          { device with irqEnabled := irq, done := done, error := error }.startCommand .writeBlock
        | true, true => { device with irqEnabled := irq, done := false, error := true }
        | false, false => { device with irqEnabled := irq, done := done, error := error } := by
  refine ⟨(value.setWidth 32 &&& controlIrqEnable) != 0,
    if value.setWidth 32 &&& statusDone ≠ 0 then false else device.done,
    if value.setWidth 32 &&& statusError ≠ 0 then false else device.error, fun h => ?_, ?_⟩
  · rw [h, ite_self]
  · unfold applyControlByte
    dsimp only
    generalize ((value.setWidth 32 &&& controlStartRead) != 0) = startRead
    generalize ((value.setWidth 32 &&& controlStartWrite) != 0) = startWrite
    cases startRead <;> cases startWrite <;> split_ifs <;> rfl

/-- A byte of the control register that asks for no command. -/
theorem applyControlByte_of_requested_none (device : BlockDevice) {value : U8}
    (h : requested value = none) :
    ∃ irq done error, (attempts value = false → device.error = false → error = false) ∧
      device.applyControlByte value =
        { device with irqEnabled := irq, done := done, error := error } := by
  obtain ⟨irq, done, error, herror, heq⟩ := device.applyControlByte_eq value
  unfold requested at h
  unfold attempts
  rw [heq]
  cases hread : (value.setWidth 32 &&& controlStartRead) != 0 <;>
    cases hwrite : (value.setWidth 32 &&& controlStartWrite) != 0 <;> rw [hread, hwrite] at h
  · exact ⟨irq, done, error, fun _ => herror, rfl⟩
  · cases h
  · cases h
  · exact ⟨irq, false, true, fun hnot => (nomatch hnot), rfl⟩

/-- A byte of the control register that asks for a command. -/
theorem applyControlByte_of_requested (device : BlockDevice) {value : U8} {kind : BlockCommand}
    (h : requested value = some kind) :
    ∃ irq, device.applyControlByte value =
      if device.active.isSome then { device with irqEnabled := irq, done := false, error := true }
      else if device.operationLatency = 0 then
        { device with irqEnabled := irq, done := false, error := false }.finishCommand kind
      else
        { device with
          irqEnabled := irq
          done := false
          error := false
          active := some ⟨kind, device.operationLatency⟩ } := by
  obtain ⟨irq, done, error, -, heq⟩ := device.applyControlByte_eq value
  refine ⟨irq, ?_⟩
  unfold requested at h
  rw [heq]
  cases hread : (value.setWidth 32 &&& controlStartRead) != 0 <;>
    cases hwrite : (value.setWidth 32 &&& controlStartWrite) != 0 <;>
      rw [hread, hwrite] at h <;> cases h <;> rfl

theorem attempts_of_requested {value : U8} {kind : BlockCommand} (h : requested value = some kind) :
    attempts value = true := by
  unfold requested at h
  unfold attempts
  cases hread : (value.setWidth 32 &&& controlStartRead) != 0 <;>
    cases hwrite : (value.setWidth 32 &&& controlStartWrite) != 0 <;>
      rw [hread, hwrite] at h <;> first | rfl | cases h

end BlockDevice

/-! ## What a completion does -/

namespace StartedCommand

variable {started : StartedCommand} {device : BlockDevice}

theorem asStarted_read (hkind : started.kind = .readBlock) :
    started.AsStarted device ↔
      (started.block < device.blockCount → device.selectedBlock < device.blockCount) ∧
        (started.block < device.blockCount →
          BlockDevice.blockAt device.blockBytes device.storage device.selectedBlock =
            BlockDevice.blockAt device.blockBytes device.storage started.block) := by
  unfold AsStarted
  rw [hkind]

theorem asStarted_write (hkind : started.kind = .writeBlock) :
    started.AsStarted device ↔
      (started.block < device.blockCount → device.selectedBlock < device.blockCount) ∧
        if device.selectedBlock = started.block then
          started.block < device.blockCount → device.staging = started.staging
        else
          (device.selectedBlock < device.blockCount →
            BlockDevice.blockAt device.blockBytes device.storage device.selectedBlock = device.staging) ∧
          (started.block < device.blockCount →
            BlockDevice.blockAt device.blockBytes device.storage started.block = started.staging) := by
  unfold AsStarted
  rw [hkind]

/-- A read that completes with a valid block selected. -/
theorem completedBy_read_iff (hkind : started.kind = .readBlock) (hstorage : started.storage = device.storage)
    (herror : started.attempted = false → device.error = false)
    (hvalid : device.selectedBlock < device.blockCount) :
    started.CompletedBy (device.finishCommand .readBlock) ↔ started.AsStarted device := by
  rw [BlockDevice.finishCommand_read hvalid, asStarted_read hkind, ← hstorage]
  constructor
  · intro h
    exact ⟨fun _ => hvalid, fun hblock => h.loaded hkind hblock⟩
  · rintro ⟨-, hsame⟩
    refine ⟨fun other _ => ?_, fun _ hblock => hsame hblock, fun _ => rfl, fun _ => herror⟩
    rw [hkind, if_neg fun h => nomatch h.1]

/-- A write that completes with a valid block selected. -/
theorem completedBy_write_iff (hshaped : device.Shaped) (hkind : started.kind = .writeBlock)
    (hstorage : started.storage = device.storage)
    (herror : started.attempted = false → device.error = false)
    (hvalid : device.selectedBlock < device.blockCount) :
    started.CompletedBy (device.finishCommand .writeBlock) ↔ started.AsStarted device := by
  have hreplace := BlockDevice.blockAt_replace hshaped.staging (hshaped.le_storage hvalid)
  rw [BlockDevice.finishCommand_write hvalid, asStarted_write hkind]
  constructor
  · intro h
    -- what each block holds, both ways
    have hafter (other : U32) (hother : other < device.blockCount) :=
      (hreplace other).symm.trans (h.storage other hother)
    refine ⟨fun _ => hvalid, ?_⟩
    split
    · rename_i hsame
      intro _
      have hwritten := hafter device.selectedBlock hvalid
      rwa [if_pos rfl, if_pos ⟨hkind, hsame⟩] at hwritten
    · rename_i hne
      constructor
      · intro _
        have hkept := hafter device.selectedBlock hvalid
        rw [if_pos rfl, if_neg fun h => hne h.2] at hkept
        exact (hkept.trans (by rw [hstorage])).symm
      · intro hblock
        have hwritten := hafter started.block hblock
        rwa [if_neg fun h => hne h.symm, if_pos ⟨hkind, rfl⟩] at hwritten
  · rintro ⟨-, hwrite⟩
    refine ⟨fun other hother => (hreplace other).trans ?_, fun h => (nomatch hkind.symm.trans h),
      fun _ => rfl, fun _ => herror⟩
    dsimp only
    rw [hstorage]
    -- the block selected now, the block of the start, and all others
    by_cases hsame : device.selectedBlock = started.block
    · rw [if_pos hsame] at hwrite
      rw [hsame]
      by_cases heq : other = started.block
      · rw [if_pos heq, if_pos ⟨hkind, heq⟩]
        exact hwrite (hsame ▸ hvalid)
      · rw [if_neg heq, if_neg fun h => heq h.2]
    · rw [if_neg hsame] at hwrite
      by_cases heq : other = device.selectedBlock
      · -- the block selected now already has the contents that it gets
        rw [if_pos heq, if_neg fun h => hsame (heq.symm.trans h.2), heq]
        exact (hwrite.1 hvalid).symm
      · rw [if_neg heq]
        by_cases hblock : other = started.block
        · rw [if_pos ⟨hkind, hblock⟩, hblock]
          exact hwrite.2 (hblock ▸ hother)
        · rw [if_neg fun h => hblock h.2]

/-- A command that completes with an invalid block selected changes no block, and fails. -/
theorem completedBy_invalid_iff (hstorage : started.storage = device.storage)
    (hvalid : ¬ device.selectedBlock < device.blockCount) :
    started.CompletedBy (device.finishCommand started.kind) ↔ started.AsStarted device := by
  rw [BlockDevice.finishCommand_of_invalid hvalid]
  constructor
  · intro h
    have hinvalid : ¬ started.block < device.blockCount := fun hblock => nomatch h.done hblock
    cases hkind : started.kind with
    | readBlock =>
      exact (asStarted_read hkind).2
        ⟨fun hblock => absurd hblock hinvalid, fun hblock => absurd hblock hinvalid⟩
    | writeBlock =>
      refine (asStarted_write hkind).2 ⟨fun hblock => absurd hblock hinvalid, ?_⟩
      split
      · exact fun hblock => absurd hblock hinvalid
      · exact ⟨fun hselected => absurd hselected hvalid, fun hblock => absurd hblock hinvalid⟩
  · intro h
    have hinvalid : ¬ started.block < device.blockCount := fun hblock => hvalid (h.1 hblock)
    refine ⟨fun other hother => ?_, fun _ hblock => absurd hblock hinvalid,
      fun hblock => absurd hblock hinvalid, fun hblock => absurd hblock hinvalid⟩
    have hnot : ¬ (started.kind = .writeBlock ∧ other = started.block) :=
      fun hwritten => hinvalid (hwritten.2 ▸ hother)
    rw [if_neg hnot, hstorage]

/-- **What a command does**: it does what it was started for if the device is still as it needs it, and
only then. -/
theorem completedBy_iff (hshaped : device.Shaped) (hstorage : started.storage = device.storage)
    (herror : started.attempted = false → device.error = false) :
    started.CompletedBy (device.finishCommand started.kind) ↔ started.AsStarted device := by
  by_cases hvalid : device.selectedBlock < device.blockCount
  · cases hkind : started.kind with
    | readBlock => exact completedBy_read_iff hkind hstorage herror hvalid
    | writeBlock => exact completedBy_write_iff hshaped hkind hstorage herror hvalid
  · exact completedBy_invalid_iff hstorage hvalid

end StartedCommand

/-! ## Histories -/

namespace BlockHistory

variable {history : BlockHistory} {step : BlockStep}

/-- What always holds of the command in progress. -/
structure Sound (history : BlockHistory) : Prop where
  shaped : history.device.Shaped
  active : history.started.map StartedCommand.kind = history.device.active.map ActiveCommand.kind
  storage : ∀ started ∈ history.started, started.storage = history.device.storage
  noError : ∀ started ∈ history.started, started.attempted = false → history.device.error = false

/-- A step completes a command, from the device as it is but for its flags. -/
def Completes (history : BlockHistory) (step : BlockStep) (started : StartedCommand) : Prop :=
  ∃ irq done error, started.storage = history.device.storage ∧
    (started.attempted = false → error = false) ∧ history.record step = some started ∧
      step.next history.device = (history.device.settled irq done error).finishCommand started.kind

/-- A step completes no command, and what holds of the one in progress still does. -/
def Continues (history : BlockHistory) (step : BlockStep) : Prop :=
  ((step.next history.device).active = none → history.record step = none) ∧ (history.next step).Sound

theorem Completes.active {started : StartedCommand} (h : history.Completes step started) :
    (step.next history.device).active = none := by
  obtain ⟨irq, done, error, -, -, -, hdevice⟩ := h
  rw [hdevice, BlockDevice.active_finishCommand]
  rfl

theorem Completes.finished {started : StartedCommand} (h : history.Completes step started) :
    history.finished step = some started := by
  unfold BlockHistory.finished
  rw [h.active]
  obtain ⟨_, _, _, -, -, hrecord, -⟩ := h
  exact hrecord

theorem Continues.finished (h : history.Continues step) : history.finished step = none := by
  unfold BlockHistory.finished
  split
  · rfl
  · rename_i hactive
    exact h.1 (Option.not_isSome_iff_eq_none.1 hactive)

theorem Completes.sound_next {started : StartedCommand} (h : history.Completes step started)
    (hshaped : history.device.Shaped) : (history.next step).Sound := by
  have hactive := h.active
  obtain ⟨irq, done, error, -, -, -, hdevice⟩ := h
  have hnext : history.next step = ⟨step.next history.device, none⟩ := by
    unfold next
    rw [hactive]
    rfl
  rw [hnext]
  refine ⟨?_, ?_, fun _ hnone => (nomatch hnone), fun _ hnone => (nomatch hnone)⟩
  · dsimp only
    rw [hdevice]
    exact (hshaped.settled irq done error).finishCommand started.kind
  · dsimp only
    rw [hactive]
    rfl

/-- A completion does what its command was started for exactly if the device is still as the command
needs it. -/
theorem Completes.completesRight_iff {started : StartedCommand} (h : history.Completes step started)
    (hshaped : history.device.Shaped) :
    history.CompletesRight step ↔ history.CompletesAsStarted step := by
  have hfinished := h.finished
  obtain ⟨irq, done, error, hstorage, herror, -, hdevice⟩ := h
  have hiff := StartedCommand.completedBy_iff (hshaped.settled irq done error) hstorage herror
  unfold CompletesRight CompletesAsStarted
  rw [hfinished, hdevice]
  constructor
  · rintro hright _ ⟨⟩
    exact hiff.1 (hright _ rfl)
  · rintro hstarted _ ⟨⟩
    exact hiff.2 (hstarted _ rfl)

theorem Continues.of_record (hshaped : (step.next history.device).Shaped)
    (hactive : (history.record step).map StartedCommand.kind =
      (step.next history.device).active.map ActiveCommand.kind)
    (hstorage : ∀ started ∈ history.record step, started.storage = (step.next history.device).storage)
    (herror : ∀ started ∈ history.record step, started.attempted = false →
      (step.next history.device).error = false) : history.Continues step := by
  have hnone (h : (step.next history.device).active = none) : history.record step = none := by
    rw [h] at hactive
    exact Option.map_eq_none_iff.1 hactive
  have hnext : history.next step = ⟨step.next history.device, history.record step⟩ := by
    unfold next
    split
    · rfl
    · rename_i h
      rw [hnone (Option.not_isSome_iff_eq_none.1 h)]
  refine ⟨hnone, ?_⟩
  rw [hnext]
  exact ⟨hshaped, hactive, hstorage, herror⟩

/-- A step that does not reach the control register leaves the command in progress alone, unless it is the
tick that completes it. -/
theorem Continues.of_unchanged (h : history.Sound) (hcontrol : step.control history.device = none)
    (hshaped : (step.next history.device).Shaped)
    (hactive : (step.next history.device).active.map ActiveCommand.kind =
      history.device.active.map ActiveCommand.kind)
    (hstorage : (step.next history.device).storage = history.device.storage)
    (herror : (step.next history.device).error = history.device.error) : history.Continues step := by
  have hrecord : history.record step = history.started := by
    unfold record
    rw [hcontrol]
  refine .of_record hshaped ?_ ?_ ?_
  · rw [hrecord, hactive]
    exact h.active
  · rw [hrecord, hstorage]
    exact h.storage
  · rw [hrecord, herror]
    exact h.noError

/-- A byte of the control register, while the device is busy. -/
theorem continues_control_busy (h : history.Sound) {addr : Address} {value : U8}
    (hcontrol : history.device.offset addr = .ok BlockDevice.controlOffset) {started : StartedCommand}
    (hstarted : history.started = some started) : history.Continues (.store addr value) := by
  have hnext : (BlockStep.store addr value).next history.device = history.device.applyControlByte value :=
    BlockDevice.store8_of_control hcontrol value
  have hrecord : history.record (.store addr value) =
      some { started with attempted := started.attempted || BlockDevice.attempts value } := by
    unfold record
    rw [BlockStep.control_store hcontrol, hstarted]
  have hkind := h.active
  rw [hstarted] at hkind
  have hactive : history.device.active.isSome := by
    rw [← Option.isSome_map (f := ActiveCommand.kind), ← hkind]
    rfl
  cases hrequested : BlockDevice.requested value with
  | none =>
    obtain ⟨irq, done, error, herror, hdevice⟩ :=
      BlockDevice.applyControlByte_of_requested_none history.device hrequested
    rw [← hnext] at hdevice
    refine .of_record ?_ ?_ ?_ ?_ <;> rw [hdevice]
    · exact ⟨h.shaped.staging, h.shaped.storage⟩
    · rw [hrecord]
      exact hkind
    · rw [hrecord]
      rintro _ ⟨⟩
      exact h.storage started hstarted
    · rw [hrecord]
      rintro _ ⟨⟩ hattempted
      rw [Bool.or_eq_false_iff] at hattempted
      exact herror hattempted.2 (h.noError started hstarted hattempted.1)
  | some kind =>
    obtain ⟨irq, hdevice⟩ :=
      BlockDevice.applyControlByte_of_requested history.device hrequested
    -- a second command is refused with an error; the first one stays
    rw [← hnext, if_pos hactive] at hdevice
    refine .of_record ?_ ?_ ?_ ?_ <;> rw [hdevice]
    · exact ⟨h.shaped.staging, h.shaped.storage⟩
    · rw [hrecord]
      exact hkind
    · rw [hrecord]
      rintro _ ⟨⟩
      exact h.storage started hstarted
    · rw [hrecord]
      rintro _ ⟨⟩ hattempted
      rw [BlockDevice.attempts_of_requested hrequested, Bool.or_true] at hattempted
      cases hattempted

/-- A byte of the control register, while the device is idle. -/
theorem control_idle (h : history.Sound) {addr : Address} {value : U8}
    (hcontrol : history.device.offset addr = .ok BlockDevice.controlOffset)
    (hidle : history.started = none) :
    (∃ started, history.Completes (.store addr value) started) ∨
      history.Continues (.store addr value) := by
  have hnext : (BlockStep.store addr value).next history.device = history.device.applyControlByte value :=
    BlockDevice.store8_of_control hcontrol value
  have hrecord : history.record (.store addr value) =
      (BlockDevice.requested value).map history.device.starting := by
    unfold record
    rw [BlockStep.control_store hcontrol, hidle]
  have hactive : history.device.active = none := by
    have hkind := h.active
    rw [hidle] at hkind
    exact Option.map_eq_none_iff.1 hkind.symm
  cases hrequested : BlockDevice.requested value with
  | none =>
    -- no command: the byte sets flags only
    obtain ⟨irq, done, error, -, hdevice⟩ :=
      BlockDevice.applyControlByte_of_requested_none history.device hrequested
    rw [← hnext] at hdevice
    rw [hrequested] at hrecord
    refine .inr (.of_record ?_ ?_ ?_ ?_)
    · rw [hdevice]
      exact ⟨h.shaped.staging, h.shaped.storage⟩
    · rw [hdevice, hrecord, hactive]
      rfl
    · rw [hrecord]
      exact fun _ hnone => nomatch hnone
    · rw [hrecord]
      exact fun _ hnone => nomatch hnone
  | some kind =>
    obtain ⟨irq, hdevice⟩ :=
      BlockDevice.applyControlByte_of_requested history.device hrequested
    rw [← hnext, hactive, Option.isSome_none, if_neg Bool.false_ne_true] at hdevice
    rw [hrequested] at hrecord
    by_cases hlatency : history.device.operationLatency = 0
    · -- the command completes at once
      rw [if_pos hlatency] at hdevice
      refine .inl ⟨_, irq, false, false, rfl, fun _ => rfl, hrecord, ?_⟩
      rw [hdevice]
      congr 1
    · rw [if_neg hlatency] at hdevice
      refine .inr (.of_record ?_ ?_ ?_ ?_) <;> rw [hdevice]
      · exact ⟨h.shaped.staging, h.shaped.storage⟩
      · rw [hrecord]
        rfl
      · rw [hrecord]
        rintro _ ⟨⟩
        rfl
      · exact fun _ _ _ => rfl

theorem tick_cases (h : history.Sound) :
    (∃ started, history.Completes .tick started) ∨ history.Continues .tick := by
  have hkind := h.active
  cases hactive : history.device.active with
  | none =>
    have hnext : BlockStep.tick.next history.device = history.device := by
      unfold BlockStep.next BlockDevice.tick
      rw [hactive]
    refine .inr (.of_unchanged h rfl ?_ ?_ ?_ ?_) <;> rw [hnext]
    exact h.shaped
  | some active =>
    by_cases hremaining : 1 < active.remainingCycles
    · have hnext : BlockStep.tick.next history.device =
          { history.device with
            active := some { active with remainingCycles := active.remainingCycles - 1 } } := by
        unfold BlockStep.next BlockDevice.tick
        rw [hactive]
        dsimp only
        rw [if_pos hremaining]
      refine .inr (.of_unchanged h rfl ?_ ?_ ?_ ?_) <;> rw [hnext]
      · exact ⟨h.shaped.staging, h.shaped.storage⟩
      · rw [hactive]
        rfl
    · rw [hactive] at hkind
      -- the last cycle of the latency
      obtain ⟨started, hstarted, hsame⟩ := Option.map_eq_some_iff.1 hkind
      refine .inl ⟨started, history.device.irqEnabled, history.device.done, history.device.error,
        h.storage started hstarted, h.noError started hstarted, hstarted, ?_⟩
      unfold BlockStep.next BlockDevice.tick
      rw [hactive, hsame]
      dsimp only
      rw [if_neg hremaining]
      rfl

/-- **Every step**: it completes a command, or keeps what holds of the one in progress. -/
theorem step_cases (h : history.Sound) (step : BlockStep) :
    (∃ started, history.Completes step started) ∨ history.Continues step := by
  cases step with
  | tick => exact tick_cases h
  | load addr =>
    have hnext : (BlockStep.load addr).next history.device = history.device := by
      show (history.device.load8 addr).2 = history.device
      unfold BlockDevice.load8
      cases history.device.offset addr <;> rfl
    refine .inr (.of_unchanged h rfl ?_ ?_ ?_ ?_) <;> rw [hnext]
    exact h.shaped
  | store addr value =>
    by_cases hcontrol : history.device.offset addr = .ok BlockDevice.controlOffset
    · cases hstarted : history.started with
      | some started => exact .inr (continues_control_busy h hcontrol hstarted)
      | none => exact control_idle h hcontrol hstarted
    · obtain ⟨selected, staging, route, hstaging, hdevice⟩ :=
        BlockDevice.store8_of_ne_control hcontrol value
      have hnext : (BlockStep.store addr value).next history.device =
          { history.device with
            selectedBlock := selected, staging := staging, interruptRoute := route } := hdevice
      refine .inr (.of_unchanged h (if_neg hcontrol) ?_ ?_ ?_ ?_) <;> rw [hnext]
      exact ⟨hstaging.trans h.shaped.staging, h.shaped.storage⟩

end BlockHistory

/-- **In which runs every command does what it was started for**: exactly in those in which each finds the
device, when it completes, as it was when it was started. -/
theorem completesAsStarted_iff {device : BlockDevice} (hshaped : device.Shaped) (hidle : device.active = none)
    (steps : List BlockStep) :
    Along BlockHistory.next BlockHistory.CompletesRight ⟨device, none⟩ steps ↔
      Along BlockHistory.next BlockHistory.CompletesAsStarted ⟨device, none⟩ steps := by
  have hsound : BlockHistory.Sound ⟨device, none⟩ :=
    ⟨hshaped, by rw [hidle]; rfl, fun _ hnone => (nomatch hnone), fun _ hnone => (nomatch hnone)⟩
  have hstep (history : BlockHistory) (step : BlockStep) (h : history.Sound) :
      (history.CompletesRight step ↔ history.CompletesAsStarted step) ∧ (history.next step).Sound := by
    rcases BlockHistory.step_cases h step with ⟨started, hcompletes⟩ | hcontinues
    · exact ⟨hcompletes.completesRight_iff h.shaped, hcompletes.sound_next h.shaped⟩
    · refine ⟨?_, hcontinues.2⟩
      unfold BlockHistory.CompletesRight BlockHistory.CompletesAsStarted
      rw [hcontinues.finished]
      exact ⟨fun _ _ hnone => (nomatch hnone), fun _ _ hnone => (nomatch hnone)⟩
  constructor
  · exact Along.of_invariant hsound fun history step h hright =>
      ⟨(hstep history step h).1.1 hright, (hstep history step h).2⟩
  · exact Along.of_invariant hsound fun history step h hstarted =>
      ⟨(hstep history step h).1.2 hstarted, (hstep history step h).2⟩

/-- A device of two blocks of one word. -/
def BlockDevice.twoWords : BlockDevice := .new 0x70000000 2 4 1 (by decide) (by decide)

/-- A write of the first block that is left alone does what it was started for: the device is as it needs it
when it completes. -/
theorem completesAsStarted_iff_left_alone :
    Along BlockHistory.next BlockHistory.CompletesRight ⟨.twoWords, none⟩
      [.store 0x70000010 7, .store 0x70000004 2, .tick] := by
  refine (completesAsStarted_iff (BlockDevice.shaped_new _ _ _ _ _ _) rfl _).2
    ⟨(fun _ h => nomatch h), (fun _ h => nomatch h), ?_, trivial⟩
  rintro _ ⟨⟩
  exact ⟨fun h => h, fun _ => rfl⟩

/-- A write of the first block, and behind it the index of the second: the window goes there. -/
theorem write_follows_index :
    ¬ Along BlockHistory.next BlockHistory.CompletesRight ⟨.twoWords, none⟩
        [.store 0x70000010 7, .store 0x70000004 2, .store 0x70000000 1, .tick] := by
  rintro ⟨-, -, -, h, -⟩
  have hwritten := (h _ rfl).storage 0 (by decide)
  exact absurd hwritten (by decide)

end RvSim
