import RvSim.System.Scheduled

/-!
# A flat memory

Bytes from address zero, every access of which is performed at once.

## Main definitions

* `FlatRam`, `FlatRam.ofWords`

## Main results

* `settled_defaultLoad32`, `settled_defaultStore32`: the default accesses of the trait are never busy if
  the bytes are not
-/

namespace RvSim

section Defaults

variable {β : Type} {load8 : β → Address → Except BusError U8 × β}
  {store8 : β → Address → U8 → Except BusError Unit × β}

theorem settled_andThen {α γ : Type} {result : Except BusError α × β}
    {next : α → β → Except BusError γ × β} (h : Settled result.1)
    (hnext : ∀ a b, Settled (next a b).1) : Settled (andThen result next).1 := by
  rcases result with ⟨error | a, b⟩
  · intro n heq
    exact h n (congrArg _ (Except.error.inj heq))
  · exact hnext a b

theorem settled_misaligned {α : Type} (addr : Address) (width : Nat) :
    Settled (.error (.misalignedAccess addr width) : Except BusError α) := settled_error rfl

theorem settled_defaultLoad16 (h : ∀ b a, Settled (load8 b a).1) (bus : β) (addr : Address) :
    Settled (defaultLoad16 load8 bus addr).1 := by
  unfold defaultLoad16
  split
  · exact settled_misaligned _ _
  · exact settled_andThen (h _ _) fun _ _ => settled_andThen (h _ _) fun _ _ => settled_ok _

theorem settled_defaultLoad32 (h : ∀ b a, Settled (load8 b a).1) (bus : β) (addr : Address) :
    Settled (defaultLoad32 load8 bus addr).1 := by
  unfold defaultLoad32
  split
  · exact settled_misaligned _ _
  · exact settled_andThen (h _ _) fun _ _ => settled_andThen (h _ _) fun _ _ =>
      settled_andThen (h _ _) fun _ _ => settled_andThen (h _ _) fun _ _ => settled_ok _

theorem settled_defaultStore16 (h : ∀ b a v, Settled (store8 b a v).1) (bus : β) (addr : Address)
    (value : U16) : Settled (defaultStore16 store8 bus addr value).1 := by
  unfold defaultStore16
  split
  · exact settled_misaligned _ _
  · exact settled_andThen (h _ _ _) fun _ _ => h _ _ _

theorem settled_defaultStore32 (h : ∀ b a v, Settled (store8 b a v).1) (bus : β) (addr : Address)
    (value : U32) : Settled (defaultStore32 store8 bus addr value).1 := by
  unfold defaultStore32
  split
  · exact settled_misaligned _ _
  · exact settled_andThen (h _ _ _) fun _ _ => settled_andThen (h _ _ _) fun _ _ =>
      settled_andThen (h _ _ _) fun _ _ => h _ _ _

end Defaults

/-- Bytes from address zero. -/
structure FlatRam where
  bytes : List U8
  deriving DecidableEq

namespace FlatRam

/-- A memory that holds `words` from address zero, little-endian. -/
def ofWords (words : List U32) : FlatRam where
  bytes := words.flatMap fun (word : U32) =>
    [word.setWidth 8, (word >>> 8).setWidth 8, (word >>> 16).setWidth 8, (word >>> 24).setWidth 8]

def load8 (ram : FlatRam) (addr : Address) : Except BusError U8 × FlatRam :=
  match ram.bytes[addr.toNat]? with
  | some byte => (.ok byte, ram)
  | none => (.error (.unmappedAddress addr), ram)

def store8 (ram : FlatRam) (addr : Address) (value : U8) : Except BusError Unit × FlatRam :=
  if addr.toNat < ram.bytes.length then (.ok (), { bytes := ram.bytes.set addr.toNat value })
  else (.error (.unmappedAddress addr), ram)

instance : Bus FlatRam where
  load8 := load8
  store8 := store8

theorem settled_load8 (ram : FlatRam) (addr : Address) : Settled (ram.load8 addr).1 := by
  unfold load8
  split
  · exact settled_ok _
  · exact settled_error rfl

theorem settled_store8 (ram : FlatRam) (addr : Address) (value : U8) :
    Settled (ram.store8 addr value).1 := by
  unfold store8
  split
  · exact settled_ok _
  · exact settled_error rfl

instance : NeverBusy FlatRam where
  load8 := settled_load8
  load16 := settled_defaultLoad16 settled_load8
  load32 := settled_defaultLoad32 settled_load8
  fetch32 := settled_defaultLoad32 settled_load8
  store8 := settled_store8
  store16 := settled_defaultStore16 settled_store8
  store32 := settled_defaultStore32 settled_store8

end FlatRam

end RvSim
