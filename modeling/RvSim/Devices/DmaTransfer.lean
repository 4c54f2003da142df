import RvSim.Automata.Run
import RvSim.Devices.DmaController
import RvSim.System.ByteMemory

/-!
# Transfers of the DMA controller

The controller over a memory, with the requests that are outstanding. Requests take effect in any order
and are answered in order, as the arbiter does it.

Which transfer a request belongs to, what the memory was when the transfer started, and which words have
been read and written since, are bookkeeping beside the controller.

## Main definitions

* `DmaSystem`, `DmaStep`, `DmaSystem.next`: the controller, the memory and the requests between them
* `Copied`: the transfer is done, and nothing else is
* `RespondsToOwn`: a response is for a request of the transfer it changes

* `StartsClean`, `TransferStep`: the steps that the results are about

## Main results

* `DmaController.effect_store8`: what a store to a register does to the transfer
-/

namespace RvSim

open Automata ByteMemory

/-- A transfer: its ranges, and the memory in which it started. -/
structure Transfer where
  source : Address
  destination : Address
  length : Nat
  memory : ByteMemory

/-- A request that has not been answered, with its response if it has taken effect, and the number of the
transfer it belongs to. -/
structure OutstandingDma where
  request : BusMasterRequest
  response : Option (Except BusError BusMasterResponse)
  transfer : Nat

/-- The controller, the memory, and the requests between them. -/
structure DmaSystem where
  dma : DmaController
  memory : ByteMemory
  outstanding : List OutstandingDma := []
  number : Nat := 0
  transfer : Transfer := ⟨0, 0, 0, memory⟩
  reads : List Address := []
  writes : List Address := []

/-- How a request ends: it takes effect, or fails and leaves some memory behind. -/
inductive DmaOutcome
  | effect
  | failed (error : BusError) (memory : ByteMemory)

/-- A step of the system. `perform` lets the outstanding request with an index take effect, `respond`
answers the oldest one. -/
inductive DmaStep
  | issue
  | perform (index : Nat) (outcome : DmaOutcome)
  | respond
  | store (addr : Address) (value : U8)

/-- What a request does to the memory. -/
def BusMasterRequest.perform (request : BusMasterRequest) (memory : ByteMemory) :
    BusMasterResponse × ByteMemory :=
  match request with
  | .load32 addr => (.load32 (memory.word addr), memory)
  | .store32 addr value => (.storeComplete, memory.writeWords addr [value])
  | .readWords baseAddr beats => (.readWords (memory.words baseAddr beats), memory)
  | .writeWords baseAddr words => (.writeWordsComplete words.length, memory.writeWords baseAddr words)

/-- The words a request reads. -/
def BusMasterRequest.wordsRead : BusMasterRequest → List Address
  | .load32 addr => [addr]
  | .readWords baseAddr beats => (List.range beats).map (wordAddr baseAddr)
  | _ => []

/-- The words a request writes. -/
def BusMasterRequest.wordsWritten : BusMasterRequest → List Address
  | .store32 addr _ => [addr]
  | .writeWords baseAddr words => (List.range words.length).map (wordAddr baseAddr)
  | _ => []

namespace DmaSystem

/-- The system with another state of the controller; a transfer that starts is recorded. -/
def withDma (sys : DmaSystem) (dma : DmaController) : DmaSystem :=
  if sys.dma.active = none ∧ dma.active ≠ none then
    { sys with
      dma
      number := sys.number + 1
      transfer := ⟨dma.source.setWidth 64, dma.destination.setWidth 64, dma.lengthWords.toNat, sys.memory⟩
      reads := []
      writes := [] }
  else { sys with dma }

/-- An outstanding request takes effect. -/
def performAt (sys : DmaSystem) (index : Nat) (outcome : DmaOutcome) : DmaSystem :=
  match sys.outstanding[index]? with
  | some ⟨request, none, transfer⟩ =>
    match outcome with
    | .effect =>
      { sys with
        memory := (request.perform sys.memory).2
        outstanding := sys.outstanding.set index
          ⟨request, some (.ok (request.perform sys.memory).1), transfer⟩
        reads := sys.reads ++ request.wordsRead
        writes := sys.writes ++ request.wordsWritten }
    | .failed error memory =>
      { sys with
        memory
        outstanding := sys.outstanding.set index ⟨request, some (.error error), transfer⟩ }
  | _ => sys

def next (sys : DmaSystem) : DmaStep → DmaSystem
  | .issue =>
    match BusMaster.request sys.dma with
    | (some request, dma) =>
      { sys with dma, outstanding := sys.outstanding ++ [⟨request, none, sys.number⟩] }
    | (none, dma) => { sys with dma }
  | .perform index outcome => sys.performAt index outcome
  | .respond =>
    match sys.outstanding with
    | ⟨_, some response, _⟩ :: outstanding =>
      { sys with dma := BusMaster.onResponse sys.dma response, outstanding }
    | _ => sys
  | .store addr value => sys.withDma (Addressable.store8 sys.dma addr value).2

end DmaSystem

/-! ## What is claimed of transfers -/

/-- **The transfer is done, and nothing else is**: the destination holds what the source held at the
start, no other byte has changed, every word of the ranges was read or written once, and the count of
transferred words is the length. -/
structure Copied (transfer : Transfer) (sys : DmaSystem) : Prop where
  contents : ∀ offset < 4 * transfer.length, sys.memory (transfer.destination + BitVec.ofNat 64 offset) =
    transfer.memory (transfer.source + BitVec.ofNat 64 offset)
  frame : ∀ addr, (∀ offset < 4 * transfer.length, addr ≠ transfer.destination + BitVec.ofNat 64 offset) →
    sys.memory addr = transfer.memory addr
  reads : sys.reads.Perm ((List.range transfer.length).map (wordAddr transfer.source))
  writes : sys.writes.Perm ((List.range transfer.length).map (wordAddr transfer.destination))
  transferred : sys.dma.transferredWords = BitVec.ofNat 32 transfer.length

def Transfer.Disjoint (transfer : Transfer) : Prop :=
  DisjointRanges transfer.source transfer.destination transfer.length

/-- An issued request is for a request of the bus. -/
def IssuedDmaRequest.Matches (issued : IssuedDmaRequest) (request : BusMasterRequest) : Prop :=
  match issued, request with
  | .readBurst _ beats, .readWords _ beats' => beats' = beats
  | .writeBurst beats, .writeWords _ words => words.length = beats
  | _, _ => False

/-- If a response changes the controller, it is for a request of the current transfer, and for the one
that the controller pairs it with. -/
def RespondsToOwn (sys : DmaSystem) (step : DmaStep) : Prop :=
  match step, sys.outstanding with
  | .respond, ⟨request, some response, transfer⟩ :: _ =>
    BusMaster.onResponse sys.dma response ≠ sys.dma →
      transfer = sys.number ∧ ∃ active issued rest, sys.dma.active = some active ∧
        active.issuedRequests = issued :: rest ∧ issued.Matches request
  | _, _ => True

/-- A transfer that is done has copied its range. -/
def CompletesRight (sys : DmaSystem) (step : DmaStep) : Prop :=
  (sys.next step).transfer.Disjoint → (sys.next step).dma.done = true →
    Copied (sys.next step).transfer (sys.next step)

/-- No transfer starts while a request is outstanding. -/
def StartsClean (sys : DmaSystem) (step : DmaStep) : Prop :=
  match step with
  | .store addr value =>
    sys.dma.active = none → (Addressable.store8 sys.dma addr value).2.active ≠ none → sys.outstanding = []
  | _ => True

/-- A step of a transfer that is left alone: no request fails, and the control register is not written. -/
def TransferStep (sys : DmaSystem) (step : DmaStep) : Prop :=
  match step with
  | .perform _ (.failed _ _) => False
  | .store addr _ => (addr - sys.dma.range.start) &&& ~~~0b11 ≠ DmaController.controlOffset
  | _ => True

/-! ## Registers -/

/-- What a store to a register does to the transfer. -/
inductive RegisterEffect (dma dma' : DmaController) : Prop
  | kept (hactive : dma'.active = dma.active) (htransferred : dma'.transferredWords = dma.transferredWords)
    (hdone : dma'.done = true → dma.done = true)
  | refused (hidle : dma.active = none) (hactive : dma'.active = none) (hdone : dma'.done = false)
  | began (hidle : dma.active = none) (hdone : dma'.done = false) (htransferred : dma'.transferredWords = 0)
    (hactive : dma'.active = some {
      nextSource := dma'.source.setWidth 64, nextDestination := dma'.destination.setWidth 64
      remainingWords := dma'.lengthWords })

namespace DmaController

theorem effect_startTransfer (dma : DmaController) : RegisterEffect dma dma.startTransfer := by
  unfold startTransfer
  split
  · exact .kept rfl rfl id
  · rename_i hbusy
    have hidle : dma.active = none := Option.not_isSome_iff_eq_none.1 hbusy
    dsimp only
    split
    · exact .refused hidle hidle rfl
    · exact .began hidle rfl rfl rfl

theorem effect_applyControlByte (dma : DmaController) (value : U8) :
    RegisterEffect dma (dma.applyControlByte value) := by
  unfold applyControlByte
  dsimp only
  have hflags {flags : DmaController} (hactive : flags.active = dma.active)
      (htransferred : flags.transferredWords = dma.transferredWords)
      (hdone : flags.done = true → dma.done = true) :
      RegisterEffect dma (if (value.setWidth 32 : U32) &&& controlStart ≠ 0 then flags.startTransfer
        else flags) := by
    split
    · cases flags.effect_startTransfer with
      | kept h h' h'' => exact .kept (h.trans hactive) (h'.trans htransferred) fun hd => hdone (h'' hd)
      | refused h h' h'' => exact .refused (hactive.symm.trans h) h' h''
      | began h h' h'' h''' => exact .began (hactive.symm.trans h) h' h'' h'''
    · exact .kept hactive htransferred hdone
  refine hflags ?_ ?_ ?_
  · split <;> split <;> rfl
  · split <;> split <;> rfl
  · split <;> split <;> first | exact id | exact fun h => by cases h

/-- A store that is not to the control register. -/
theorem kept_storeRegister (dma : DmaController) {addr offset : Address} (value : U8)
    (hcontrol : offset &&& ~~~0b11 ≠ controlOffset) :
    (dma.storeRegister addr offset value).2.active = dma.active ∧
      (dma.storeRegister addr offset value).2.transferredWords = dma.transferredWords ∧
      (dma.storeRegister addr offset value).2.done = dma.done ∧
      (dma.storeRegister addr offset value).2.range = dma.range := by
  unfold storeRegister
  simp only [if_neg hcontrol]
  split_ifs <;> exact ⟨rfl, rfl, rfl, rfl⟩

theorem effect_store8 (dma : DmaController) (addr : Address) (value : U8) :
    RegisterEffect dma (dma.store8 addr value).2 := by
  unfold store8
  split
  · exact .kept rfl rfl id
  · rename_i offset _
    by_cases hcontrol : offset &&& ~~~0b11 = controlOffset
    · unfold storeRegister
      rw [hcontrol]
      simp only [show controlOffset ≠ sourceOffset by decide,
        show controlOffset ≠ destinationOffset by decide, show controlOffset ≠ lengthOffset by decide,
        if_false, if_true]
      split
      · exact dma.effect_applyControlByte value
      · exact .kept rfl rfl id
    · obtain ⟨hactive, htransferred, hdone, -⟩ := dma.kept_storeRegister value hcontrol
      exact .kept hactive htransferred fun h => by rwa [hdone] at h

end DmaController

end RvSim
