import RvSim.Automata.Run
import RvSim.Mmu.Entry

/-!
# Calls of the page walker, and the PTEs they read

A run of the walker is a list of calls, fences and changes that others make to the bus. A log beside
the bus keeps the words the bus has returned, and the accesses to PTEs it has refused; an answer
follows from these if it is what some walk over them gives.

## Main definitions

* `MmuOp`, `MmuOp.step`, `MmuOp.answer`: the runs of a walker
* `Logged`: a bus with a log of its word reads and of the refused word accesses
* `Reached`, `Follows`: the PTEs and answers of a request that follow from the log
-/

namespace RvSim

/-! ## Runs of the walker -/

/-- What happens to a walker and its bus. -/
inductive MmuOp (β : Type)
  | translate (csrs : CsrFile) (privilege : PrivilegeMode) (virtualAddress : U32)
      (access : MemoryAccess)
  | flushFence (fence : TranslationFence)
  | tick (change : β → β)

namespace MmuOp

variable {β : Type}

def request : MmuOp β → Option TranslationRequest
  | translate csrs privilege virtualAddress access =>
    some (.of csrs privilege virtualAddress access)
  | _ => none

variable [Bus β]

/-- What a call of `translate` gives. -/
def called (s : PageWalker × β) : MmuOp β → Option (Except BusError TranslationResult × PageWalker × β)
  | translate csrs privilege virtualAddress access =>
    some (s.1.translate s.2 csrs privilege virtualAddress access)
  | _ => none

/-- The answer of a call that does not stall. -/
def answer (s : PageWalker × β) (op : MmuOp β) : Option TranslationResult :=
  (op.called s).bind fun called => called.1.toOption.filter (· != .stall)

def step (s : PageWalker × β) (op : MmuOp β) : PageWalker × β :=
  match op with
  | translate csrs privilege virtualAddress access =>
    (s.1.translate s.2 csrs privilege virtualAddress access).2
  | flushFence fence => (s.1.flushFence fence, s.2)
  | tick change => (s.1, change s.2)

end MmuOp

/-- An answer is what `translate` has returned. -/
theorem MmuOp.translate_of_answer {β : Type} [Bus β] {s : PageWalker × β} {csrs : CsrFile}
    {privilege : PrivilegeMode} {virtualAddress : U32} {access : MemoryAccess}
    {answer : TranslationResult}
    (h : answer ∈ (MmuOp.translate csrs privilege virtualAddress access).answer s) :
    (s.1.translate s.2 csrs privilege virtualAddress access).1 = .ok answer ∧ answer ≠ .stall := by
  simp only [MmuOp.answer, MmuOp.called, Option.bind_some, Option.mem_def,
    Option.filter_eq_some_iff, bne_iff_ne] at h
  refine ⟨?_, h.2⟩
  rcases hcalled : (s.1.translate s.2 csrs privilege virtualAddress access).1 with error | answer'
  · rw [hcalled] at h
    cases h.1
  · rw [hcalled] at h
    rw [Option.some.inj h.1]

/-! ## A log of the reads -/

/-- A bus with the addresses of its word reads and the words they have returned, and with the word
accesses that it has answered with an error other than busy. -/
structure Logged (β : Type) where
  bus : β
  reads : List (Address × Option U32)
  refusals : List (Address × MemoryAccess)
  deriving DecidableEq

namespace Logged

variable {β : Type}

def start (bus : β) : Logged β := ⟨bus, [], []⟩

/-- The entry of an access that the bus refuses. -/
def refusal {α : Type} (addr : Address) (access : MemoryAccess) :
    Except BusError α → List (Address × MemoryAccess)
  | .error error => if error.isBusy then [] else [(addr, access)]
  | .ok _ => []

/-- The bus has changed, and nothing was read. -/
def pass {α : Type} (l : Logged β) (result : Except BusError α × β) : Except BusError α × Logged β :=
  (result.1, { l with bus := result.2 })

/-- The bus has answered a read. -/
def read (l : Logged β) (addr : Address) (result : Except BusError U32 × β) :
    Except BusError U32 × Logged β :=
  (result.1,
    { bus := result.2
      reads := l.reads ++ [(addr, result.1.toOption)]
      refusals := l.refusals ++ refusal addr .load result.1 })

/-- The bus has answered the write of a word. -/
def write (l : Logged β) (addr : Address) (result : Except BusError Unit × β) :
    Except BusError Unit × Logged β :=
  (result.1,
    { l with bus := result.2, refusals := l.refusals ++ refusal addr .store result.1 })

instance [Bus β] : Bus (Logged β) where
  load8 l addr := l.pass (Bus.load8 l.bus addr)
  store8 l addr value := l.pass (Bus.store8 l.bus addr value)
  machineTime l := Bus.machineTime l.bus
  isBusy l := Bus.isBusy l.bus
  pendingInterrupts l := Bus.pendingInterrupts l.bus
  load16 l addr := l.pass (Bus.load16 l.bus addr)
  load32 l addr := l.read addr (Bus.load32 l.bus addr)
  fetch32 l addr := l.pass (Bus.fetch32 l.bus addr)
  store16 l addr value := l.pass (Bus.store16 l.bus addr value)
  store32 l addr value := l.write addr (Bus.store32 l.bus addr value)

/-- The bus has returned this word at the PTE address. -/
def Has (l : Logged β) (pteAddress pte : U32) : Prop :=
  (pteAddress.setWidth 64, some pte) ∈ l.reads

instance (l : Logged β) (pteAddress pte : U32) : Decidable (l.Has pteAddress pte) :=
  inferInstanceAs (Decidable (_ ∈ _))

/-- The bus has refused this access to the PTE address. -/
def Refused (l : Logged β) (pteAddress : U32) (access : MemoryAccess) : Prop :=
  (pteAddress.setWidth 64, access) ∈ l.refusals

/-- What others do to the bus does not touch the log. -/
def change (f : β → β) (l : Logged β) : Logged β := { l with bus := f l.bus }

variable [Bus β] {l b : Logged β}

theorem reads_of_load32 {addr : Address} {result : Except BusError U32}
    (h : Bus.load32 l addr = (result, b)) : b.reads = l.reads ++ [(addr, result.toOption)] := by
  obtain ⟨rfl, rfl⟩ := Prod.mk.inj h
  rfl

theorem reads_of_store32 {addr : Address} {value : U32} {result : Except BusError Unit}
    (h : Bus.store32 l addr value = (result, b)) : b.reads = l.reads := by
  obtain ⟨-, rfl⟩ := Prod.mk.inj h
  rfl

theorem refused_of_load32 {pteAddress : U32} {error : BusError} (notBusy : error.isBusy = false)
    (h : Bus.load32 l (pteAddress.setWidth 64) = (.error error, b)) : b.Refused pteAddress .load := by
  obtain ⟨herror, rfl⟩ := Prod.mk.inj h
  refine List.mem_append_right _ ?_
  rw [herror, refusal, notBusy]
  exact List.mem_singleton.2 rfl

theorem refused_of_store32 {pteAddress value : U32} {error : BusError} (notBusy : error.isBusy = false)
    (h : Bus.store32 l (pteAddress.setWidth 64) value = (.error error, b)) :
    b.Refused pteAddress .store := by
  obtain ⟨herror, rfl⟩ := Prod.mk.inj h
  refine List.mem_append_right _ ?_
  rw [herror, refusal, notBusy]
  exact List.mem_singleton.2 rfl

theorem has_of_load32 {pteAddress pte : U32}
    (h : Bus.load32 l (pteAddress.setWidth 64) = (.ok pte, b)) : b.Has pteAddress pte := by
  rw [Has, reads_of_load32 h]
  exact List.mem_append_right _ (List.mem_singleton.mpr rfl)

omit [Bus β] in
/-- Words that have been returned stay in the log. -/
theorem Has.mono {pteAddress pte : U32} (h : l.Has pteAddress pte)
    (hreads : l.reads <+: b.reads) : b.Has pteAddress pte :=
  hreads.subset h

/-- A read keeps the words that have been returned. -/
theorem has_mono_of_load32 {addr : Address} {result : Except BusError U32}
    (h : Bus.load32 l addr = (result, b)) (pteAddress pte : U32) (word : l.Has pteAddress pte) :
    b.Has pteAddress pte :=
  word.mono ⟨_, (reads_of_load32 h).symm⟩

end Logged

namespace PageWalker

variable {β : Type} [Bus β] {walker w : PageWalker} {l b : Logged β} {state : WalkState}
  {drainOnly : Bool} {result : StepResult}

/-- The write of a leaf reads nothing. -/
theorem LeafWrite.reads_eq {physicalAddress flags value : U32}
    (h : LeafWrite walker l state physicalAddress flags value drainOnly result w b) :
    b.reads = l.reads := by
  cases h with
  | done store => exact Logged.reads_of_store32 store
  | busy store => exact Logged.reads_of_store32 store
  | failed _ store => exact Logged.reads_of_store32 store

/-- A step reads at most the PTE of its walk. -/
theorem WalkStep.reads_eq (h : WalkStep walker l state drainOnly result w b) :
    b.reads = l.reads ∨ ∃ word, b.reads = l.reads ++ [(state.pteAddress.setWidth 64, word)] := by
  cases h with
  | write _ leaf => exact .inl leaf.reads_eq
  | busy _ load => exact .inr ⟨_, Logged.reads_of_load32 load⟩
  | failed _ _ load => exact .inr ⟨_, Logged.reads_of_load32 load⟩
  | fault _ load => exact .inr ⟨_, Logged.reads_of_load32 load⟩
  | table _ load => exact .inr ⟨_, Logged.reads_of_load32 load⟩
  | leaf _ load => exact .inr ⟨_, Logged.reads_of_load32 load⟩
  | update _ load _ _ leaf => exact .inr ⟨_, leaf.reads_eq.trans (Logged.reads_of_load32 load)⟩

theorem WalkStep.reads_prefix (h : WalkStep walker l state drainOnly result w b) :
    l.reads <+: b.reads := by
  rcases h.reads_eq with heq | ⟨word, heq⟩
  · rw [heq]
  · exact ⟨_, heq.symm⟩

end PageWalker

/-- A run over a bus with a log. -/
def MmuOp.logged {β : Type} : MmuOp β → MmuOp (Logged β)
  | translate csrs privilege virtualAddress access => .translate csrs privilege virtualAddress access
  | flushFence fence => .flushFence fence
  | tick f => .tick (Logged.change f)

/-- One step of such a run. -/
def MmuOp.loggedStep {β : Type} [Bus β] (s : PageWalker × Logged β) (op : MmuOp β) :
    PageWalker × Logged β :=
  op.logged.step s

/-! ## What follows from words read -/

section Follows

variable (words : U32 → U32 → Prop) (refused : U32 → MemoryAccess → Prop) (request : TranslationRequest)

/-- A walk over the words reaches this PTE of a level: the root table's, or one of the table that a
word at the former points to. -/
def Reached : Nat → U32 → Prop
  | 0, pteAddress => ∃ pte, words request.rootPteAddress pte ∧
      pteStep request 1 pte = .table pteAddress
  | 1, pteAddress => pteAddress = request.rootPteAddress
  | _, _ => False

/-- The answer is what a walk over the words gives: the address or the fault of a PTE that it reaches,
or the access fault of one that the bus refuses to read, or to set the bits of. -/
inductive Follows : TranslationResult → Prop
  | leaf {level : Nat} {pteAddress pte physicalAddress : U32}
      (reached : Reached words request level pteAddress) (word : words pteAddress pte)
      (meaning : pteStep request level pte = .leaf physicalAddress) :
      Follows (.physicalAddress physicalAddress)
  | fault {level : Nat} {pteAddress pte : U32}
      (reached : Reached words request level pteAddress) (word : words pteAddress pte)
      (meaning : pteStep request level pte = .fault) : Follows (.fault request.pageFault)
  | refusedRead {level : Nat} {pteAddress : U32} (reached : Reached words request level pteAddress)
      (refusal : refused pteAddress .load) : Follows (.fault request.accessFault)
  | refusedWrite {level : Nat} {pteAddress pte physicalAddress : U32}
      (reached : Reached words request level pteAddress) (word : words pteAddress pte)
      (meaning : pteStep request level pte = .leaf physicalAddress)
      (refusal : refused pteAddress .store) : Follows (.fault request.accessFault)

end Follows

theorem Reached.mono {words words' : U32 → U32 → Prop} (h : ∀ a pte, words a pte → words' a pte)
    {request : TranslationRequest} {level : Nat} {pteAddress : U32}
    (reached : Reached words request level pteAddress) :
    Reached words' request level pteAddress := by
  match level, reached with
  | 0, ⟨pte, word, meaning⟩ => exact ⟨pte, h _ _ word, meaning⟩
  | 1, reached => exact reached

theorem Reached.level_le {words : U32 → U32 → Prop} {request : TranslationRequest} {level : Nat}
    {pteAddress : U32} (reached : Reached words request level pteAddress) : level ≤ 1 := by
  match level, reached with
  | 0, _ => exact Nat.zero_le 1
  | 1, _ => exact le_refl 1

/-- A walk goes on at the table that a PTE on its way points to. -/
theorem Reached.table {words : U32 → U32 → Prop} {request : TranslationRequest} {level : Nat}
    {pteAddress pte next : U32} (reached : Reached words request level pteAddress)
    (word : words pteAddress pte) (meaning : pteStep request level pte = .table next) :
    Reached words request (level - 1) next := by
  match level, reached with
  | 0, _ => exact absurd rfl (level_of_table meaning)
  | 1, reached => exact ⟨pte, reached ▸ word, meaning⟩

/-- The walks of a page reach the same PTEs. -/
theorem Reached.of_samePage {words : U32 → U32 → Prop} {r r' : TranslationRequest} {level : Nat}
    {pteAddress : U32} (reached : Reached words r level pteAddress) (same : r.SamePage level r') :
    Reached words r' level pteAddress := by
  match level, reached with
  | 0, ⟨pte, word, meaning⟩ =>
    refine ⟨pte, ?_, same.pteStep_table meaning⟩
    rw [same.rootPteAddress_eq]
    exact word
  | 1, reached => exact reached.trans same.rootPteAddress_eq.symm

end RvSim
