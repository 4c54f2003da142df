import RvSim.Core.Alike
import RvSim.System.TestBus

/-!
# Fetching behind an unresolved branch

In the cycle in which ID decodes a branch or `jalr`, IF fetches behind it. EX resolves the
instruction in the next cycle that MEM does not stall, and drops the fetched word if the prediction
was wrong. A fetch that faults is not dropped: IF enters the trap at once. And a fetch that completes may
leave its traces in the page walker and on the bus.

Two runs on the same bus and ticks are compared: the real one, and the one in which IF makes no attempt in
that cycle. Behind a fetch that leaves no trace which a later translation or call could find, the two wait
for MEM for the same cycles, redirect in the same cycle, and go on as one.

## Main definitions

* `PipelineCore.stepUnfetched`: a cycle without the fetch
* `Machine.Discards`: MEM waits for some cycles, and EX redirects in the next
* `FetchInvisible`: behind the redirect the run goes on as the one without the fetch
* `FetchVisible`: a discarded fetch traps, or leaves a trace behind

## Main results

* `Behind.redirects`: behind the redirect the two cores differ in their walkers only
* `fetchInvisible_run`: in a run without such a fetch no discarded fetch can be told
-/

namespace RvSim

/-- A conditional branch or a `jalr`: EX decides where it goes. -/
def InstructionKind.isBranch : InstructionKind → Bool
  | .branch _ | .jalr => true
  | _ => false

def FetchEvent.isTrap : FetchEvent → Bool
  | .trap _ => true
  | _ => false

/-! ## The two runs -/

namespace PipelineCore

variable {β : Type} [Bus β]

/-- The cycle in which IF makes no attempt to fetch. -/
def stepUnfetched (core : PipelineCore) (bus : β) : PipelineCore × β :=
  let core := core.begun bus
  if core.state.halted then ((core.haltedCycle bus).2, bus)
  else
    match core.backStages bus with
    | .ok l => (core.finishCycle l.skipFetch).2
    | .error (_, l) =>
      ({ core with state := l.state, pageWalker := l.pageWalker, predictor := l.predictor }, l.bus)

/-- EX redirects in the cycle. -/
def redirects (core : PipelineCore) (bus : β) : Bool :=
  (core.executed bus).any fun call => detectBranchFlush call.1.predictedPc call.2.nextPc

/-- All of a core but its page walker: the hart with its registers, CSRs and mode, what is in flight, and the
instruction committed in the last cycle. -/
def visible (core : PipelineCore) : PipelineCore := { core with pageWalker := .default }

end PipelineCore

section Runs

variable {β : Type} [Bus β] (machine : Machine PipelineCore β)

namespace Machine

/-- The cycle in which IF makes no attempt to fetch. -/
def stepUnfetched (tick : β → β) : Machine PipelineCore β :=
  let (cpu, bus) := machine.cpu.stepUnfetched (tick machine.bus)
  { cpu, bus }

/-- What IF answers in a cycle, if it attempts a fetch. -/
def fetched (tick : β → β) : Option FetchEvent :=
  (machine.cpu.begun (tick machine.bus)).fetchAnswer (tick machine.bus)

/-- IF attempts a fetch behind the branch or `jalr` that ID hands to EX. -/
def FetchesBehindBranch (tick : β → β) : Prop :=
  (machine.fetched tick).isSome = true ∧
    (machine.stepCycle tick).cpu.latches.idEx.any (·.decoded.kind.isBranch) = true

/-- MEM makes the cycle wait. -/
def Waits (tick : β → β) : Prop :=
  ∃ x, (machine.cpu.begun (tick machine.bus)).memoryAnswer (tick machine.bus) = some (.stall x)

/-- EX redirects in the cycle. -/
def Redirects (tick : β → β) : Prop :=
  (machine.cpu.begun (tick machine.bus)).redirects (tick machine.bus) = true

instance (tick : β → β) : Decidable (machine.Redirects tick) := inferInstanceAs (Decidable (_ = _))

/-- MEM makes the cycles of `waits` wait, and in the next one EX redirects and drops what has been fetched
behind the branch. -/
def Discards (waits : List (β → β)) (last : β → β) : Prop :=
  Automata.Along stepCycle Waits machine waits ∧ (machine.runCycles waits).Redirects last

end Machine

/-- **A fetch that a redirect discards has no effect**: if IF attempts a fetch behind a branch in this cycle
and EX redirects behind some waits, then so it does in the run without the attempt, on the same bus and
ticks, and behind the redirect, in every cycle from then on, the two cores are the same but for the page
walker: the mode, the CSRs, the registers, what is in flight and what commits. -/
def FetchInvisible (tick : β → β) (later : List (β → β)) : Prop :=
  machine.FetchesBehindBranch tick → ∀ waits last rest, later = waits ++ last :: rest →
    (machine.stepCycle tick).Discards waits last →
      (machine.stepUnfetched tick).Discards waits last ∧
        ∀ past, past <+: rest →
          ((machine.stepCycle tick).runCycles (waits ++ last :: past)).cpu.visible =
            ((machine.stepUnfetched tick).runCycles (waits ++ last :: past)).cpu.visible

/-- The page walkers and buses of the two machines cannot be told apart by any translation, fence, call or
tick of `ticks`. -/
def Untraceable (ticks : List (β → β)) (machine machine' : Machine PipelineCore β) : Prop :=
  ∃ R : PageWalker → β → PageWalker → β → Prop, AnswersAlike R ∧ (∀ tick ∈ ticks, TicksAlike R tick tick) ∧
    R machine.cpu.pageWalker machine.bus machine'.cpu.pageWalker machine'.bus

/-- A fetch that EX discards traps, or leaves a page walker or a bus behind that answers some translation or
call otherwise than without it. -/
def FetchVisible (tick : β → β) (later : List (β → β)) : Prop :=
  machine.FetchesBehindBranch tick ∧
    (∃ waits last rest, later = waits ++ last :: rest ∧ (machine.stepCycle tick).Discards waits last) ∧
    ((machine.fetched tick).any (·.isTrap) = true ∨
      ¬ Untraceable later (machine.stepCycle tick) (machine.stepUnfetched tick))

/-- Every cycle of the run on the ticks has the property, with the ticks that are left behind it. -/
def Throughout (P : Machine PipelineCore β → (β → β) → List (β → β) → Prop) :
    Machine PipelineCore β → List (β → β) → Prop
  | _, [] => True
  | machine, tick :: later => P machine tick later ∧ Throughout P (machine.stepCycle tick) later

end Runs

/-! ## Another front end -/

namespace PipelineCore

variable {β : Type} [Bus β]

/-- The core with another pc and another word in its front end. -/
def withFront (core : PipelineCore) (pc : U32) (word : Option IfIdPayload) : PipelineCore :=
  { core with frontEndPc := pc, latches := { core.latches with ifId := word } }

variable (core : PipelineCore) (bus : β) (pc : U32) (word : Option IfIdPayload)

omit [Bus β] in
theorem written_withFront :
    (core.withFront pc word).written bus = { core.written bus with nextFrontEndPc := pc } := by
  unfold written StepLocals.writeBackStage
  have hlatch : (core.withFront pc word).latches.memWb = core.latches.memWb := rfl
  rw [hlatch]
  rcases core.latches.memWb with _ | q
  · rfl
  · rfl

theorem memoryAnswer_withFront : (core.withFront pc word).memoryAnswer bus = core.memoryAnswer bus := by
  unfold memoryAnswer
  rw [written_withFront]
  rfl

/-- MEM lets a cycle go on whatever the front end holds. -/
theorem memoryPass_withFront {x : Option ExMemPayload} {q : Option MemWbPayload} {w : PageWalker} {b : β}
    (memory : MemoryPass (core.written bus) x q w b) :
    MemoryPass ((core.withFront pc word).written bus) x q w b := by
  rw [written_withFront]
  cases memory with
  | idle => exact .idle
  | advance access => exact .advance access

theorem withFront_withFront (pc' : U32) (word' : Option IfIdPayload) :
    (core.withFront pc word).withFront pc' word' = core.withFront pc' word' := rfl

theorem withFront_self : core.withFront core.frontEndPc core.latches.ifId = core := rfl

/-- EX works on the same instruction. -/
theorem executeCall_withFront : (core.withFront pc word).executeCall bus = core.executeCall bus := by
  have keeps (core : PipelineCore) (pc : U32) (word : Option IfIdPayload) {call : IdExPayload × U32 × U32}
      (h : core.executeCall bus = some call) : (core.withFront pc word).executeCall bus = some call := by
    obtain ⟨running, noInterrupt, ⟨q, w, b, memory⟩, noBarrier, hlatch, hrs1, hrs2⟩ :=
      executeCall_eq_some_iff.mp h
    refine executeCall_eq_some_iff.mpr ⟨running, ?_,
      ⟨q, w, b, core.memoryPass_withFront bus pc word memory⟩, ?_, hlatch, hrs1, hrs2⟩
    · rw [written_withFront]
      exact noInterrupt
    · rw [written_withFront]
      exact noBarrier
  rcases h : core.executeCall bus with _ | call
  · rcases h' : (core.withFront pc word).executeCall bus with _ | call
    · rfl
    · have hback := keeps _ core.frontEndPc core.latches.ifId h'
      rw [withFront_withFront, withFront_self, h] at hback
      exact hback.symm
  · exact keeps core pc word h

theorem executed_withFront : (core.withFront pc word).executed bus = core.executed bus := by
  unfold executed
  rw [executeCall_withFront, written_withFront]

/-- A running cycle is the one the core goes through. -/
theorem stepCycle_of_running {core : PipelineCore} {bus : β} {l : StepLocals β}
    (running : (core.begun bus).state.halted = false) (cycle : RunningCycle (core.begun bus) bus l) :
    (core.stepCycle bus).2 = ((core.begun bus).finishCycle l).2 := by
  have cases := core.stepCycle_cases bus
  rw [show (core.stepCycle bus).2 = ((core.stepCycle bus).2.1, (core.stepCycle bus).2.2) from rfl]
  generalize (core.stepCycle bus).2.1 = core', (core.stepCycle bus).2.2 = bus' at cases ⊢
  cases cases with
  | wake halted => cases running.symm.trans halted
  | wait halted => cases running.symm.trans halted
  | running _ cycle' =>
    obtain rfl := cycle.unique cycle'
    rfl

/-- In a cycle in which MEM waits, the front end stays as it is. -/
theorem stepCycle_withFront_of_wait {x : ExMemPayload}
    (hwait : (core.begun bus).memoryAnswer bus = some (.stall x)) :
    ((core.withFront pc word).stepCycle bus).2 =
      ((core.stepCycle bus).2.1.withFront pc word, (core.stepCycle bus).2.2) := by
  obtain ⟨running, noInterrupt, p, w, b, hlatch, haccess⟩ := memoryAnswer_eq_some hwait
  obtain rfl := MemStage.access_stall haccess
  have hwritten := (core.begun bus).written_withFront bus pc word
  have noInterrupt' : (((core.begun bus).withFront pc word).written bus).takenInterrupt = none := by
    rw [hwritten]
    exact noInterrupt
  have haccess' : MemStage.access bus (((core.begun bus).withFront pc word).written bus).pageWalker
      (((core.begun bus).withFront pc word).written bus).state.csrs
      (((core.begun bus).withFront pc word).written bus).state.privilege x = (.ok (.stall x), w, b) := by
    rw [hwritten]
    exact haccess
  have cycle := stepCycle_of_running running (.memoryWait noInterrupt hlatch haccess)
  have cycle' : ((core.withFront pc word).stepCycle bus).2 = _ :=
    stepCycle_of_running running (.memoryWait noInterrupt' hlatch haccess')
  rw [cycle', cycle]
  have hlocals : ((core.withFront pc word).begun bus).written bus =
      { (core.begun bus).written bus with nextFrontEndPc := pc } := hwritten
  rw [hlocals]
  rfl

/-- In a cycle in which EX redirects, the front end is replaced. -/
theorem stepCycle_withFront_of_redirect
    (hredirects : (core.begun bus).redirects bus = true) :
    ((core.withFront pc word).stepCycle bus).2 = (core.stepCycle bus).2 := by
  obtain ⟨⟨p, outcome⟩, hexecuted, hflush⟩ := (Option.any_eq_true _ _).mp hredirects
  obtain ⟨rs1Value, rs2Value, hcall, hexecute⟩ := executed_eq_some_iff.mp hexecuted
  obtain ⟨running, noInterrupt, ⟨q, w, b, memory⟩, noBarrier, hlatch, rfl, rfl⟩ :=
    executeCall_eq_some_iff.mp hcall
  have hwritten := (core.begun bus).written_withFront bus pc word
  have noInterrupt' : (((core.begun bus).withFront pc word).written bus).takenInterrupt = none := by
    rw [hwritten]
    exact noInterrupt
  have noBarrier' : (((core.begun bus).withFront pc word).written bus).translationBarrier = false := by
    rw [hwritten]
    exact noBarrier
  have hexecute' : (core.begun bus).latches.executeEvent
      (((core.begun bus).withFront pc word).written bus).state p = .advance outcome := by
    rw [hwritten]
    exact hexecute
  have memory' := (core.begun bus).memoryPass_withFront bus pc word memory
  have hflush' : (isTranslationBarrierPayload p.decoded outcome.csrWrite
      || detectBranchFlush p.predictedPc outcome.nextPc) = true := by
    rw [show detectBranchFlush p.predictedPc outcome.nextPc = true from hflush, Bool.or_true]
  have cycle := stepCycle_of_running running
    (.redirect noInterrupt memory noBarrier hlatch hexecute hflush')
  have cycle' : ((core.withFront pc word).stepCycle bus).2 = _ :=
    stepCycle_of_running running (.redirect noInterrupt' memory' noBarrier' hlatch hexecute' hflush')
  rw [cycle', cycle]
  have hlocals : ((core.withFront pc word).begun bus).written bus =
      { (core.begun bus).written bus with nextFrontEndPc := pc } := hwritten
  rw [hlocals]
  rfl

end PipelineCore

/-! ## The run behind the fetch -/

section Behind

variable {β : Type} [Bus β] {R : PageWalker → β → PageWalker → β → Prop}
  {machine machine' : Machine PipelineCore β} {tick : β → β}

/-- The machines differ in related walkers and buses, and in what a fetch has left in the front end. -/
def Behind (R : PageWalker → β → PageWalker → β → Prop) (machine machine' : Machine PipelineCore β) :
    Prop :=
  ∃ pc word, Machine.Alike R { machine with cpu := machine.cpu.withFront pc word } machine'

/-- **A fetch that does not trap** changes the front end, the walker and the bus only. -/
theorem behind_of_fetched (hfetched : (machine.fetched tick).isSome = true)
    (htrap : ¬ (machine.fetched tick).any (·.isTrap) = true)
    (related : R (machine.stepCycle tick).cpu.pageWalker (machine.stepCycle tick).bus
      (machine.stepUnfetched tick).cpu.pageWalker (machine.stepUnfetched tick).bus) :
    Behind R (machine.stepCycle tick) (machine.stepUnfetched tick) := by
  suffices hfront : ∃ pc word w, (machine.stepUnfetched tick).cpu =
      { (machine.stepCycle tick).cpu.withFront pc word with pageWalker := w } by
    obtain ⟨pc, word, w, hcore⟩ := hfront
    refine ⟨pc, word, w, hcore, ?_⟩
    rw [hcore] at related
    exact related
  unfold Machine.fetched at hfetched htrap
  show ∃ pc word w, (machine.cpu.stepUnfetched (tick machine.bus)).1 =
    { (machine.cpu.stepCycle (tick machine.bus)).2.1.withFront pc word with pageWalker := w }
  generalize tick machine.bus = bus at hfetched htrap
  unfold PipelineCore.fetchAnswer at hfetched htrap
  unfold PipelineCore.stepCycle PipelineCore.stepUnfetched PipelineCore.runningCycle
  dsimp only
  by_cases hhalted : (machine.cpu.begun bus).state.halted = true
  · rw [if_pos hhalted] at hfetched
    cases hfetched
  rw [if_neg hhalted] at hfetched htrap ⊢
  rw [if_neg hhalted]
  rcases hstages : (machine.cpu.begun bus).backStages bus with failure | l
  · rw [hstages] at hfetched
    cases hfetched
  rw [hstages] at hfetched htrap
  dsimp only at hfetched htrap ⊢
  by_cases hfetches : l.fetches = true
  · rw [if_pos hfetches] at hfetched htrap
    have hflushed : l.flushed = false := by
      simp only [StepLocals.fetches, Bool.and_eq_true, Bool.not_eq_true'] at hfetches
      exact hfetches.1.1.1.1
    rw [StepLocals.fetchStage, if_pos hfetches, StepLocals.skipFetch, hflushed]
    rcases hanswer : IfStage.fetch l.bus l.pageWalker l.state.csrs l.state.privilege l.nextFrontEndPc
      l.predictor with ⟨answer, w, b⟩
    rw [hanswer] at hfetched htrap
    rcases answer with _ | event
    · cases hfetched
    cases event with
    | advance payload => exact ⟨_, _, _, rfl⟩
    | stall => exact ⟨_, _, _, rfl⟩
    | trap t => exact absurd rfl htrap
  · rw [if_neg hfetches] at hfetched
    cases hfetched

variable (alike : AnswersAlike R)

include alike

/-- Where MEM waits in the one, it waits in the other. -/
theorem Behind.waits (h : Behind R machine machine') (htick : TicksAlike R tick tick)
    (hwaits : machine.Waits tick) :
    machine'.Waits tick ∧ Behind R (machine.stepCycle tick) (machine'.stepCycle tick) := by
  obtain ⟨pc, word, halike⟩ := h
  obtain ⟨x, hx⟩ := hwaits
  have hstep := halike.stepCycle alike htick
  obtain ⟨w, hcore, related⟩ := halike
  have hticked : (machine.cpu.withFront pc word).Alike R (tick machine.bus) machine'.cpu (tick machine'.bus) :=
    ⟨w, hcore, htick related⟩
  refine ⟨⟨x, ?_⟩, pc, word, ?_⟩
  · rw [(hticked.begun alike).memoryAnswer alike]
    exact ((machine.cpu.begun (tick machine.bus)).memoryAnswer_withFront _ pc word).trans hx
  · have hfront := machine.cpu.stepCycle_withFront_of_wait (tick machine.bus) pc word hx
    have hmachine : ({ machine with cpu := machine.cpu.withFront pc word } : Machine PipelineCore β).stepCycle
        tick = { machine.stepCycle tick with cpu := (machine.stepCycle tick).cpu.withFront pc word } := by
      show Machine.mk ((machine.cpu.withFront pc word).stepCycle (tick machine.bus)).2.1
        ((machine.cpu.withFront pc word).stepCycle (tick machine.bus)).2.2 = _
      rw [hfront]
      rfl
    rw [← hmachine]
    exact hstep

/-- **Where EX redirects in the one, it redirects in the other**, and the two go on as one. -/
theorem Behind.redirects (h : Behind R machine machine') (htick : TicksAlike R tick tick)
    (hredirects : machine.Redirects tick) :
    machine'.Redirects tick ∧ (machine.stepCycle tick).Alike R (machine'.stepCycle tick) := by
  obtain ⟨pc, word, halike⟩ := h
  have hstep := halike.stepCycle alike htick
  obtain ⟨w, hcore, related⟩ := halike
  have hticked : (machine.cpu.withFront pc word).Alike R (tick machine.bus) machine'.cpu (tick machine'.bus) :=
    ⟨w, hcore, htick related⟩
  constructor
  · unfold Machine.Redirects PipelineCore.redirects
    rw [(hticked.begun alike).executed alike]
    have hfront := (machine.cpu.begun (tick machine.bus)).executed_withFront (tick machine.bus) pc word
    rw [show ((machine.cpu.withFront pc word).begun (tick machine.bus)).executed (tick machine.bus) = _ from
      hfront]
    exact hredirects
  · have hfront := machine.cpu.stepCycle_withFront_of_redirect (tick machine.bus) pc word hredirects
    have hmachine : ({ machine with cpu := machine.cpu.withFront pc word } : Machine PipelineCore β).stepCycle
        tick = machine.stepCycle tick := by
      show Machine.mk ((machine.cpu.withFront pc word).stepCycle (tick machine.bus)).2.1
        ((machine.cpu.withFront pc word).stepCycle (tick machine.bus)).2.2 = _
      rw [hfront]
      rfl
    rw [← hmachine]
    exact hstep

/-- Behind the waits, EX redirects in both. -/
theorem Behind.discards {waits : List (β → β)} (h : Behind R machine machine')
    (hticks : ∀ tick ∈ waits, TicksAlike R tick tick) (htick : TicksAlike R tick tick)
    (hdiscards : machine.Discards waits tick) :
    machine'.Discards waits tick ∧
      (machine.runCycles (waits ++ [tick])).Alike R (machine'.runCycles (waits ++ [tick])) := by
  induction waits generalizing machine machine' with
  | nil =>
    obtain ⟨hredirects, hafter⟩ := h.redirects alike htick hdiscards.2
    exact ⟨⟨trivial, hredirects⟩, hafter⟩
  | cons wait waits ih =>
    obtain ⟨⟨hwait, hwaits⟩, hredirects⟩ := hdiscards
    obtain ⟨hwait', hbehind⟩ := h.waits alike (hticks wait List.mem_cons_self) hwait
    obtain ⟨⟨hwaits', hredirects'⟩, hafter⟩ :=
      ih hbehind (fun tick hmem => hticks tick (List.mem_cons_of_mem _ hmem)) ⟨hwaits, hredirects⟩
    exact ⟨⟨⟨hwait', hwaits'⟩, hredirects'⟩, hafter⟩

end Behind

/-! ## Every run -/

section Run

variable {β : Type} [Bus β]

/-- A fetch that leaves the walker and the bus as they were leaves no trace. -/
theorem untraceable_of_eq {machine machine' : Machine PipelineCore β} (ticks : List (β → β))
    (hwalker : machine.cpu.pageWalker = machine'.cpu.pageWalker) (hbus : machine.bus = machine'.bus) :
    Untraceable ticks machine machine' := by
  refine ⟨_, answersAlike_eq, fun tick _ => ?_, hwalker, hbus⟩
  rintro w b _ _ ⟨rfl, rfl⟩
  exact ⟨rfl, rfl⟩

omit [Bus β] in
/-- Cores that differ in their walkers only are the same otherwise. -/
theorem PipelineCore.Alike.visible_eq {R : PageWalker → β → PageWalker → β → Prop}
    {core core' : PipelineCore} {bus bus' : β} (h : core.Alike R bus core' bus') : core.visible = core'.visible := by
  obtain ⟨w, rfl, -⟩ := h
  rfl

theorem fetchInvisible_of_not_visible {machine : Machine PipelineCore β} {tick : β → β}
    {later : List (β → β)} (h : ¬ FetchVisible machine tick later) : FetchInvisible machine tick later := by
  intro hfetches waits last rest hlater hdiscards
  have hclean : ¬ ((machine.fetched tick).any (·.isTrap) = true ∨
      ¬ Untraceable later (machine.stepCycle tick) (machine.stepUnfetched tick)) := fun hmarks =>
    h ⟨hfetches, ⟨waits, last, rest, hlater, hdiscards⟩, hmarks⟩
  rw [not_or, not_not] at hclean
  obtain ⟨htrap, R, alike, hticks, related⟩ := hclean
  subst hlater
  have hbehind := behind_of_fetched hfetches.1 htrap related
  obtain ⟨hdiscards', hafter⟩ := hbehind.discards alike
    (fun tick hmem => hticks tick (List.mem_append_left _ hmem))
    (hticks last (List.mem_append_right _ List.mem_cons_self)) hdiscards
  refine ⟨hdiscards', fun past hpast => ?_⟩
  -- from the redirect on the two runs go on as one
  have hpastTicks : List.Forall₂ (TicksAlike R) past past := List.forall₂_same.mpr fun tick hmem =>
    hticks tick (List.mem_append_right _ (List.mem_cons_of_mem _ (hpast.subset hmem)))
  have hrun := hafter.runCycles alike hpastTicks
  have hsplit (machine : Machine PipelineCore β) : machine.runCycles (waits ++ last :: past) =
      (machine.runCycles (waits ++ [last])).runCycles past := by
    rw [List.append_cons waits last past]
    exact Automata.run_append ..
  rw [hsplit, hsplit]
  exact hrun.visible_eq

/-- **No discarded fetch has an effect** in a run in which none traps or leaves a trace. -/
theorem fetchInvisible_run (machine : Machine PipelineCore β) (ticks : List (β → β))
    (h : Throughout (fun machine tick later => ¬ FetchVisible machine tick later) machine ticks) :
    Throughout FetchInvisible machine ticks := by
  induction ticks generalizing machine with
  | nil => trivial
  | cons tick later ih => exact ⟨fetchInvisible_of_not_visible h.1, ih _ h.2⟩

end Run

/-- A branch to itself in the last word of the memory, in user mode. -/
def lastWordLoop : Machine PipelineCore TestBus :=
  .boot (fun state => { state with privilege := .user }) (.ofWords [0x00000063])

/-- The same with a word behind the branch. -/
def paddedLoop : Machine PipelineCore TestBus :=
  .boot (fun state => { state with privilege := .user }) (.ofWords [0x00000063, 0x00000013])

/-- The word behind the branch is fetched and discarded. -/
theorem fetchInvisible_run_padded :
    (paddedLoop.stepCycle id).FetchesBehindBranch id ∧
      ((paddedLoop.stepCycle id).stepCycle id).Discards [] id ∧
      Throughout FetchInvisible paddedLoop [id, id, id, id] := by
  refine ⟨⟨by decide +kernel, by decide +kernel⟩, ⟨trivial, by decide +kernel⟩,
    fetchInvisible_run paddedLoop [id, id, id, id] ⟨?_, ?_, ?_, ?_, trivial⟩⟩
  all_goals
    rintro ⟨-, -, htrap | htrace⟩
    · revert htrap
      decide +kernel
    · exact htrace (untraceable_of_eq _ (by decide +kernel) (by decide +kernel))

/-- **The discarded fetch of a fault traps**: the branch goes back to itself, but the word behind it
is not mapped, and the hart ends up in machine mode. -/
theorem wrongPath_fetch_traps : ¬ Throughout FetchInvisible lastWordLoop [id, id, id] := by
  rintro ⟨-, h, -⟩
  -- both runs redirect in the next cycle, but only one of them has entered the trap
  have hvisible := (h ⟨by decide +kernel, by decide +kernel⟩ [] id [] rfl ⟨trivial, by decide +kernel⟩).2 []
    (List.prefix_refl _)
  have hmode := congrArg (·.state.privilege) hvisible
  revert hmode
  decide +kernel

end RvSim
