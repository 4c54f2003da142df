import RvSim.Automata.Run
import RvSim.Exec.Helpers

/-!
# What software sets pending

`mip` shows a pending bit that a device drives or that software has set. The set and clear forms of a CSR
instruction read the merged bits and write them back, and so turn the bits of devices into bits that software
has set.

## Main definitions

* `CsrEvent`: the lines are sampled, or a CSR instruction is performed
* `CsrEvent.own`: what software means by an instruction
* `FollowsOperand`: only the bits the operand selects change
* `KeepsLines`: no line is high that the instruction would write back

## Main results

* `followsOperand_iff`: in which runs the pending bits of software are its own
-/

namespace RvSim

open Automata

/-! ## The pending bits -/

/-- The bits of a CSR that software can set pending. -/
def CsrAddress.pendingMask : CsrAddress → U32
  | .mip => mipWritableMask
  | .sip => sipWritableMask
  | _ => 0

theorem getLsbD_clear (value mask : U32) (i : Nat) :
    (value &&& ~~~mask).getLsbD i = (value.getLsbD i && !mask.getLsbD i) := by
  by_cases hi : i < 32
  · simp only [BitVec.getLsbD_and, BitVec.getLsbD_not, hi, decide_true, Bool.true_and]
  · simp [BitVec.getLsbD_of_ge _ _ (Nat.not_lt.1 hi)]

/-- A bit of a word that is merged in under a mask. -/
theorem getLsbD_merge (value bits mask : U32) (i : Nat) :
    (value &&& ~~~mask ||| bits &&& mask).getLsbD i =
      if mask.getLsbD i then bits.getLsbD i else value.getLsbD i := by
  rw [BitVec.getLsbD_or, getLsbD_clear, BitVec.getLsbD_and]
  cases mask.getLsbD i <;> simp

namespace CsrFile

variable (csrs : CsrFile)

/-- `mip` shows the bits of software and those of the lines. -/
def Merged : Prop :=
  ∀ i, mipWritableMask.getLsbD i = true →
    csrs.machine.mip.getLsbD i = (csrs.softwarePending.getLsbD i || csrs.externalPending.getLsbD i)

theorem getLsbD_of_subset (mask other : U32) (h : mask &&& other = mask) {i : Nat}
    (hbit : mask.getLsbD i = true) : other.getLsbD i = true := by
  rw [← h, BitVec.getLsbD_and, Bool.and_eq_true] at hbit
  exact hbit.2

theorem merged_refreshMip : csrs.refreshMip.Merged := by
  intro i hi
  have hmanaged := getLsbD_of_subset _ managedInterruptMask (by decide) hi
  simp [refreshMip, hi, hmanaged]

theorem merged_write (h : csrs.Merged) (address : CsrAddress) (value : U32) :
    (csrs.write address value).Merged := by
  cases address with
  | mip => exact merged_refreshMip _
  | sip => exact merged_refreshMip _
  | _ => exact h

/-- A write sets the bits of software that its CSR has. -/
theorem softwarePending_write (address : CsrAddress) (value : U32) (i : Nat) :
    (csrs.write address value).softwarePending.getLsbD i =
      if address.pendingMask.getLsbD i then value.getLsbD i else csrs.softwarePending.getLsbD i := by
  cases address with
  | mip => exact getLsbD_merge _ _ _ i
  | sip => exact getLsbD_merge _ _ _ i
  | _ => simp [write, CsrAddress.pendingMask]

/-- A read shows the merged bits. -/
theorem read_pending (h : csrs.Merged) (address : CsrAddress) {i : Nat}
    (hi : address.pendingMask.getLsbD i = true) :
    (csrs.read address).getLsbD i = (csrs.softwarePending.getLsbD i || csrs.externalPending.getLsbD i) := by
  cases address with
  | mip => exact h i hi
  | sip =>
    have hsip : sipMask.getLsbD i = true := getLsbD_of_subset sipWritableMask _ (by decide) hi
    have hmip := h i (getLsbD_of_subset sipWritableMask _ (by decide) hi)
    simp [read, hsip, hmip]
  | _ => simp [CsrAddress.pendingMask] at hi

end CsrFile

/-! ## Events -/

/-- The form sets or clears the bits of its operand. -/
def CsrOp.selects : CsrOp → Bool
  | .readWrite | .readWriteImmediate => false
  | _ => true

/-- The operand of a CSR instruction. -/
def csrSource (decoded : DecodedInstruction) (op : CsrOp) (rs1Value : U32) : U32 :=
  match op with
  | .readWriteImmediate | .readSetImmediate | .readClearImmediate => (decoded.rs1.getD 0).setWidth 32
  | .readWrite | .readSet | .readClear => rs1Value

/-- What happens to the pending bits. -/
inductive CsrEvent
  | sync (interrupts : InterruptSet)
  | instruction (decoded : DecodedInstruction) (rs1Value : U32)

/-- A CSR instruction with its operand. -/
structure CsrOperand where
  op : CsrOp
  address : CsrAddress
  source : U32
  deriving DecidableEq

namespace CsrEvent

/-- The CSR file behind an event; an instruction is evaluated and commits its write. -/
def next (csrs : CsrFile) : CsrEvent → CsrFile
  | sync interrupts => csrs.syncInterrupts interrupts
  | instruction decoded rs1Value =>
    match csrExecute decoded csrs rs1Value with
    | some ⟨_, some write⟩ => csrs.write write.address write.value
    | _ => csrs

def operand : CsrEvent → Option CsrOperand
  | sync _ => none
  | instruction decoded rs1Value =>
    match decoded.kind, decoded.csr with
    | .csr op, some address => some ⟨op, address, csrSource decoded op rs1Value⟩
    | _, _ => none

/-- The bits of software behind an event, if the operand is all that counts. -/
def own (bits : U32) (event : CsrEvent) : U32 :=
  match event.operand with
  | none => bits
  | some ⟨op, address, source⟩ =>
    match op with
    | .readWrite | .readWriteImmediate =>
      bits &&& ~~~address.pendingMask ||| source &&& address.pendingMask
    | .readSet | .readSetImmediate => bits ||| source &&& address.pendingMask
    | .readClear | .readClearImmediate => bits &&& ~~~(source &&& address.pendingMask)

/-- An event without an operand leaves the bits of software. -/
theorem next_of_operand_none {csrs : CsrFile} {event : CsrEvent} (h : event.operand = none) :
    (event.next csrs).softwarePending = csrs.softwarePending := by
  cases event with
  | sync interrupts => rfl
  | instruction decoded rs1Value =>
    have hnone : csrExecute decoded csrs rs1Value = none := by
      unfold csrExecute
      split
      · rename_i op address hkind haddress
        unfold operand at h
        dsimp only at h
        rw [hkind, haddress] at h
        cases h
      · rfl
    unfold next
    dsimp only
    rw [hnone]

/-- An event with an operand writes what its form makes of the operand. -/
theorem next_of_operand {csrs : CsrFile} {event : CsrEvent} {operand : CsrOperand}
    (h : event.operand = some operand) :
    event.next csrs =
      (writeValue operand.op operand.address (csrs.read operand.address) operand.source).elim csrs
        fun write => csrs.write write.address write.value := by
  cases event with
  | sync interrupts => cases h
  | instruction decoded rs1Value =>
    unfold CsrEvent.operand at h
    dsimp only at h
    split at h
    · rename_i op address hkind haddress
      cases h
      have hexecute : csrExecute decoded csrs rs1Value =
          some ⟨csrs.read address,
            writeValue op address (csrs.read address) (csrSource decoded op rs1Value)⟩ := by
        unfold csrExecute
        rw [hkind, haddress]
        rfl
      unfold next
      dsimp only
      rw [hexecute]
      cases writeValue op address (csrs.read address) (csrSource decoded op rs1Value) <;> rfl
    · cases h

theorem merged_next {csrs : CsrFile} (h : csrs.Merged) (event : CsrEvent) : (event.next csrs).Merged := by
  cases event with
  | sync interrupts => exact CsrFile.merged_refreshMip _
  | instruction decoded rs1Value =>
    unfold next
    dsimp only
    rcases csrExecute decoded csrs rs1Value with _ | ⟨_, _ | write⟩
    · exact h
    · exact h
    · exact csrs.merged_write h _ _

end CsrEvent

/-! ## Histories -/

/-- The CSR file, and the bits that software has set by its operands. -/
structure PendingHistory where
  csrs : CsrFile
  own : U32

namespace PendingHistory

variable (history : PendingHistory) (event : CsrEvent)

def next : PendingHistory where
  csrs := event.next history.csrs
  own := event.own history.own

/-- **The operand decides**: a set or clear form changes only writable bits that its operand selects, only a
selected bit is set, and with its line low `mip` shows a bit only if software has set it. -/
structure FollowsOperand : Prop where
  selected : ∀ operand ∈ event.operand, operand.op.selects = true → ∀ i,
    (history.next event).csrs.softwarePending.getLsbD i ≠ history.csrs.softwarePending.getLsbD i →
      operand.source.getLsbD i = true ∧ operand.address.pendingMask.getLsbD i = true
  set : ∀ i, history.csrs.softwarePending.getLsbD i = false →
    (history.next event).csrs.softwarePending.getLsbD i = true →
      ∃ operand ∈ event.operand, operand.source.getLsbD i = true
  shown : ∀ i, mipWritableMask.getLsbD i = true →
    (history.next event).csrs.externalPending.getLsbD i = false →
      (history.next event).csrs.machine.mip.getLsbD i = true → (history.next event).own.getLsbD i = true

/-- A set or clear form finds no writable bit that its operand does not select and whose line is high,
unless software has set it already. -/
def KeepsLines : Prop :=
  ∀ operand ∈ event.operand, operand.op.selects = true → operand.source ≠ 0 → ∀ i,
    operand.address.pendingMask.getLsbD i = true → operand.source.getLsbD i = false →
      history.csrs.externalPending.getLsbD i = true → history.csrs.softwarePending.getLsbD i = true

/-- What holds as long as no line is written back. -/
structure Sound : Prop where
  merged : history.csrs.Merged
  own : history.csrs.softwarePending = history.own

variable {history event}

/-- A bit of software behind a set or clear form: what the operand makes of it, or the line that is written
back. -/
theorem getLsbD_next (hmerged : history.csrs.Merged) {operand : CsrOperand}
    (h : event.operand = some operand) (hselects : operand.op.selects = true) (i : Nat) :
    (history.next event).csrs.softwarePending.getLsbD i =
      ((event.own history.csrs.softwarePending).getLsbD i ||
        (operand.source != 0 && operand.address.pendingMask.getLsbD i &&
          !operand.source.getLsbD i && history.csrs.externalPending.getLsbD i)) := by
  obtain ⟨op, address, source⟩ := operand
  have hread := history.csrs.read_pending hmerged address (i := i)
  have hwrite := fun value => history.csrs.softwarePending_write address value i
  show (event.next history.csrs).softwarePending.getLsbD i = _
  rw [CsrEvent.next_of_operand h, CsrEvent.own, h]
  dsimp only at hselects ⊢
  by_cases hsource : source = 0
  · -- an operand of zero reads without writing
    subst hsource
    cases op with
    | readWrite | readWriteImmediate => cases hselects
    | readSet | readSetImmediate => simp [writeValue]
    | readClear | readClearImmediate =>
      dsimp only
      rw [getLsbD_clear, BitVec.getLsbD_and]
      simp [writeValue]
  -- the value that is read back and written merges the external line into the set bits
  · have hne : (source != 0) = true := by simpa using hsource
    cases op with
    | readWrite | readWriteImmediate => cases hselects
    | readSet | readSetImmediate =>
      simp only [writeValue, if_neg hsource, Option.elim_some, hwrite, BitVec.getLsbD_or,
        BitVec.getLsbD_and, hne, Bool.true_and]
      cases hmask : address.pendingMask.getLsbD i with
      | false => simp
      | true =>
        rw [hread hmask]
        cases source.getLsbD i <;> simp
    | readClear | readClearImmediate =>
      simp only [writeValue, if_neg hsource, Option.elim_some, hwrite, getLsbD_clear, hne,
        Bool.true_and]
      rw [BitVec.getLsbD_and]
      cases hmask : address.pendingMask.getLsbD i with
      | false => simp
      | true =>
        rw [hread hmask]
        cases source.getLsbD i <;> simp

/-- What an instruction means for a bit: the set and clear forms change the bits they select. -/
theorem getLsbD_own (bits : U32) {operand : CsrOperand} (h : event.operand = some operand)
    (hselects : operand.op.selects = true) {i : Nat}
    (hbit : ¬ (operand.source.getLsbD i = true ∧ operand.address.pendingMask.getLsbD i = true)) :
    (event.own bits).getLsbD i = bits.getLsbD i := by
  obtain ⟨op, address, source⟩ := operand
  rw [← Bool.and_eq_true, Bool.not_eq_true] at hbit
  rw [CsrEvent.own, h]
  cases op with
  | readWrite | readWriteImmediate => cases hselects
  | readSet | readSetImmediate =>
    dsimp only
    rw [BitVec.getLsbD_or, BitVec.getLsbD_and, hbit, Bool.or_false]
  | readClear | readClearImmediate =>
    dsimp only
    rw [getLsbD_clear, BitVec.getLsbD_and, hbit, Bool.not_false, Bool.and_true]

/-- Without an instruction nothing is set, and a set bit is one that the operand selects. -/
theorem own_set {bits : U32} {i : Nat} (hclear : bits.getLsbD i = false)
    (hset : (event.own bits).getLsbD i = true) :
    ∃ operand ∈ event.operand, operand.source.getLsbD i = true := by
  unfold CsrEvent.own at hset
  cases hoperand : event.operand with
  | none =>
    rw [hoperand] at hset
    exact absurd (hclear.symm.trans hset) Bool.false_ne_true
  | some operand =>
    rw [hoperand] at hset
    refine ⟨operand, rfl, ?_⟩
    obtain ⟨op, address, source⟩ := operand
    cases op with
    | readWrite | readWriteImmediate =>
      dsimp only at hset ⊢
      rw [getLsbD_merge] at hset
      split at hset
      · exact hset
      · exact absurd (hclear.symm.trans hset) Bool.false_ne_true
    | readSet | readSetImmediate =>
      dsimp only at hset ⊢
      rw [BitVec.getLsbD_or, hclear, Bool.false_or, BitVec.getLsbD_and, Bool.and_eq_true] at hset
      exact hset.1
    | readClear | readClearImmediate =>
      dsimp only at hset
      rw [getLsbD_clear, hclear] at hset
      cases hset

/-- As long as no line is written back, the bits of software are its own. -/
theorem KeepsLines.next_eq (h : history.KeepsLines event) (hmerged : history.csrs.Merged) :
    (history.next event).csrs.softwarePending = event.own history.csrs.softwarePending := by
  cases hoperand : event.operand with
  | none =>
    show (event.next history.csrs).softwarePending = _
    rw [CsrEvent.next_of_operand_none hoperand, CsrEvent.own, hoperand]
  | some operand =>
    by_cases hselects : operand.op.selects = true
    · refine BitVec.eq_of_getLsbD_eq fun i _ => ?_
      rw [getLsbD_next hmerged hoperand hselects]
      cases hline : (operand.source != 0 && operand.address.pendingMask.getLsbD i &&
          !operand.source.getLsbD i && history.csrs.externalPending.getLsbD i) with
      | false => exact Bool.or_false _
      | true =>
        -- the line is high, and software has set the bit
        simp only [Bool.and_eq_true, bne_iff_ne, Bool.not_eq_true'] at hline
        obtain ⟨⟨⟨hsource, hmask⟩, hother⟩, hexternal⟩ := hline
        have hset := h operand hoperand hselects hsource i hmask hother hexternal
        rw [getLsbD_own _ hoperand hselects (by rw [hother]; exact fun hand => nomatch hand.1), hset]
        rfl
    · obtain ⟨op, address, source⟩ := operand
      show (event.next history.csrs).softwarePending = _
      rw [CsrEvent.next_of_operand hoperand, CsrEvent.own, hoperand]
      refine BitVec.eq_of_getLsbD_eq fun i _ => ?_
      cases op with
      | readWrite | readWriteImmediate =>
        simp only [writeValue, Option.elim_some, CsrFile.softwarePending_write, getLsbD_merge]
      | _ => exact absurd rfl hselects

/-- A step that writes no line back follows its operand. -/
theorem KeepsLines.followsOperand (h : history.KeepsLines event) (hsound : history.Sound) :
    history.FollowsOperand event ∧ (history.next event).Sound := by
  have hnext := h.next_eq hsound.merged
  have hmerged := CsrEvent.merged_next hsound.merged event
  have hown : (history.next event).own = (history.next event).csrs.softwarePending := by
    rw [hnext, hsound.own]
    rfl
  refine ⟨⟨fun operand hoperand hselects i hchanged => ?_, fun i hclear hset => ?_,
    fun i hmask hlow hshown => ?_⟩, hmerged, hown.symm⟩
  · refine not_not.1 fun hbit => hchanged ?_
    rw [hnext]
    exact getLsbD_own _ hoperand hselects hbit
  · rw [hnext] at hset
    exact own_set hclear hset
  · have hmip := hmerged i hmask
    rw [show (event.next history.csrs).machine.mip.getLsbD i = true from hshown,
      show (event.next history.csrs).externalPending.getLsbD i = false from hlow, Bool.or_false] at hmip
    rw [hown]
    exact hmip.symm

/-- A step that follows its operand writes no line back. -/
theorem FollowsOperand.keepsLines (h : history.FollowsOperand event) (hmerged : history.csrs.Merged) :
    history.KeepsLines event := by
  intro operand hoperand hselects hsource i hmask hother hexternal
  by_contra hclear
  rw [Bool.not_eq_true] at hclear
  have hset : (history.next event).csrs.softwarePending.getLsbD i = true := by
    rw [getLsbD_next hmerged hoperand hselects, hmask, hother, hexternal, bne_iff_ne.2 hsource]
    exact Bool.or_true _
  have hselected := h.selected operand hoperand hselects i (by rw [hset, hclear]; decide)
  exact absurd (hselected.1.symm.trans hother) (by decide)

end PendingHistory

/-- **In which runs the pending bits of software are its own**: exactly if no set or clear form writes back
a line that is high. -/
theorem followsOperand_iff {csrs : CsrFile} (hmerged : csrs.Merged) (events : List CsrEvent) :
    Along PendingHistory.next PendingHistory.FollowsOperand ⟨csrs, csrs.softwarePending⟩ events ↔
      Along PendingHistory.next PendingHistory.KeepsLines ⟨csrs, csrs.softwarePending⟩ events := by
  refine Along.iff_of_invariant (I := PendingHistory.Sound) (P := fun _ _ => True) ⟨hmerged, rfl⟩
    (fun history event hsound _ h => h.followsOperand hsound)
    (fun history event hsound _ hnot h => hnot (h.keepsLines hsound.merged)) (Along.trivial_of _ _)

/-- Software sets the software bits of both modes while the line of supervisor mode is high: both are its own
when the line goes low. -/
theorem followsOperand_iff_selected :
    Along PendingHistory.next PendingHistory.FollowsOperand ⟨{}, 0⟩
      [.sync (.fromLine .supervisorSoftware),
        .instruction ⟨0, 0, .csr .readSetImmediate, none, some 10, none, 0, some .mip⟩ 0, .sync .empty] := by
  refine (followsOperand_iff (show CsrFile.Merged {} from fun i _ => by simp) _).2
    ⟨nofun, fun operand hoperand _ _ i hmask hother hline => ?_, nofun, trivial⟩
  obtain rfl := Option.some.inj hoperand
  -- the only line that is high is of a bit that the operand selects
  have hselected : ∀ i < 32, (interruptPendingMask .supervisorSoftware).getLsbD i = true →
      (10 : U32).getLsbD i = true := by decide
  have hlow : (10 : U32).getLsbD i = false := hother
  exact absurd ((hselected i (BitVec.lt_of_getLsbD hmask) hline).symm.trans hlow) (by decide)

/-- The line of the supervisor's software interrupt goes high, the machine's software bit is set, and the
line goes low. -/
def setBesideLine : List CsrEvent :=
  [.sync (.fromLine .supervisorSoftware),
    .instruction ⟨0, 0, .csr .readSetImmediate, none, some 8, none, 0, some .mip⟩ 0, .sync .empty]

/-- **The line stays pending**: software has set one bit and `mip` shows two. -/
theorem line_written_back :
    (run PendingHistory.next ⟨{}, 0⟩ setBesideLine).csrs.machine.mip = mipSsip ||| mipMsip ∧
      (run PendingHistory.next ⟨{}, 0⟩ setBesideLine).own = mipMsip ∧
      ¬ ∀ (csrs : CsrFile) events, csrs.Merged →
        Along PendingHistory.next PendingHistory.FollowsOperand ⟨csrs, csrs.softwarePending⟩ events := by
  refine ⟨by decide, by decide, fun h => ?_⟩
  have hall := h {} setBesideLine (fun i _ => by simp)
  -- the instruction does not select the bit of the line
  have hselected := hall.2.1.selected ⟨.readSetImmediate, .mip, 8⟩ rfl rfl 1 (by decide)
  exact absurd hselected.1 (by decide)

end RvSim
