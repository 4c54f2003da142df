import RvSim.System.MemoryMap

/-!
# Stores byte by byte

The memory map makes a store byte by byte, and the bytes before one that is refused stay stored.

## Main definitions

* `ByteStores`: devices that refuse the stores to some of their addresses
* `QuietStores`: devices in which a byte shortly in front of a refused one does nothing
* `ByteContents`: devices that hold a byte at each address they accept

## Main results

* `MemoryMap.storeBytesFrom_fails_iff`: which stores fail
* `MemoryMap.storeBytesFrom_quiet`: where the bytes in front of a refused one do nothing
* `MemoryMap.storeBytesFrom_eq_iff`: which stores change a device that holds bytes
-/

namespace RvSim

/-- Devices that refuse the stores to some of their addresses, whatever the value, and always the same
ones. -/
class ByteStores (D : Type) [Addressable D] where
  refuses : D → Address → Bool
  store8_refused (device : D) (addr : Address) (value : U8) (h : refuses device addr) :
    ∃ error, Addressable.store8 device addr value = (.error error, device)
  store8_accepted (device : D) (addr : Address) (value : U8) (h : ¬ refuses device addr) :
    (Addressable.store8 device addr value).1 = .ok ()
  refuses_store8 (device : D) (addr : Address) (value : U8) :
    refuses (Addressable.store8 device addr value).2 = refuses device

/-- Devices in which a byte shortly in front of a refused one does nothing. -/
class QuietStores (D : Type) [Addressable D] [ByteStores D] : Prop where
  store8_quiet (device : D) (addr : Address) (i : Nat) (value : U8) (hpos : 0 < i) (hlt : i < 4)
    (haccepted : ¬ ByteStores.refuses device addr)
    (hrefused : ByteStores.refuses device (addr + BitVec.ofNat 64 i)) :
    (Addressable.store8 device addr value).2 = device

/-- Devices that hold a byte at each address they accept. -/
class ByteContents (D : Type) [Addressable D] extends ByteStores D where
  content : D → Address → U8
  content_store8 (device : D) (addr other : Address) (value : U8) (h : ¬ refuses device addr)
    (hother : ¬ refuses device other) :
    content (Addressable.store8 device addr value).2 other =
      if other = addr then value else content device other
  store8_content (device : D) (addr : Address) (h : ¬ refuses device addr) :
    (Addressable.store8 device addr (content device addr)).2 = device

namespace MemoryMap

section Stores

variable {D : Type} [Addressable D] [ByteStores D]

open ByteStores

/-- A byte that is refused. -/
theorem storeBytesFrom_refused {device : D} {addr : Address} {offset : Nat} (byte : U8) (bytes : List U8)
    (h : refuses device (addr + BitVec.ofNat 64 offset)) :
    ∃ error, storeBytesFrom device addr offset (byte :: bytes) = (.error error, device) := by
  obtain ⟨error, herror⟩ := store8_refused device (addr + BitVec.ofNat 64 offset) byte h
  refine ⟨error, ?_⟩
  unfold storeBytesFrom
  rw [herror]

/-- A byte that is stored. -/
theorem storeBytesFrom_accepted {device : D} {addr : Address} {offset : Nat} (byte : U8) (bytes : List U8)
    (h : ¬ refuses device (addr + BitVec.ofNat 64 offset)) :
    storeBytesFrom device addr offset (byte :: bytes) =
      storeBytesFrom (Addressable.store8 device (addr + BitVec.ofNat 64 offset) byte).2 addr (offset + 1)
        bytes := by
  have haccepted := store8_accepted device (addr + BitVec.ofNat 64 offset) byte h
  conv_lhs => unfold storeBytesFrom
  generalize Addressable.store8 device (addr + BitVec.ofNat 64 offset) byte = out at haccepted
  obtain ⟨answer, after⟩ := out
  cases haccepted
  rfl

/-- A store fails if and only if one of its bytes is refused. -/
theorem storeBytesFrom_fails_iff (device : D) (addr : Address) (offset : Nat) (bytes : List U8) :
    (∃ error, (storeBytesFrom device addr offset bytes).1 = .error error) ↔
      ∃ i < bytes.length, refuses device (addr + BitVec.ofNat 64 (offset + i)) := by
  induction bytes generalizing device offset with
  | nil =>
    constructor
    · rintro ⟨error, ⟨⟩⟩
    · rintro ⟨i, hi, -⟩
      exact absurd hi (Nat.not_lt_zero i)
  | cons byte bytes ih =>
    by_cases hrefused : refuses device (addr + BitVec.ofNat 64 offset)
    · obtain ⟨error, herror⟩ := storeBytesFrom_refused byte bytes hrefused
      rw [herror]
      exact ⟨fun _ => ⟨0, Nat.succ_pos _, hrefused⟩, fun _ => ⟨error, rfl⟩⟩
    · rw [storeBytesFrom_accepted byte bytes hrefused, ih, refuses_store8]
      constructor
      · rintro ⟨i, hi, h⟩
        exact ⟨i + 1, Nat.succ_lt_succ hi, by rwa [show offset + (i + 1) = offset + 1 + i by omega]⟩
      · rintro ⟨i, hi, h⟩
        obtain _ | i := i
        · exact absurd h hrefused
        · exact ⟨i, Nat.lt_of_succ_lt_succ hi, by rwa [show offset + 1 + i = offset + (i + 1) by omega]⟩

/-- Where the bytes in front of a refused one do nothing, a store that fails does nothing. -/
theorem storeBytesFrom_quiet [QuietStores D] (device : D) (addr : Address) (offset : Nat) (bytes : List U8)
    (hwidth : bytes.length ≤ 4)
    (hfails : ∃ error, (storeBytesFrom device addr offset bytes).1 = .error error) :
    (storeBytesFrom device addr offset bytes).2 = device := by
  induction bytes generalizing offset with
  | nil => rfl
  | cons byte bytes ih =>
    by_cases hrefused : refuses device (addr + BitVec.ofNat 64 offset)
    · obtain ⟨error, herror⟩ := storeBytesFrom_refused byte bytes hrefused
      rw [herror]
    · rw [storeBytesFrom_accepted byte bytes hrefused] at hfails ⊢
      rw [List.length_cons] at hwidth
      have hlater := hfails
      rw [storeBytesFrom_fails_iff, refuses_store8] at hlater
      obtain ⟨i, hi, hlater⟩ := hlater
      rw [show offset + 1 + i = offset + (i + 1) by omega, BitVec.ofNat_add, ← BitVec.add_assoc] at hlater
      rw [QuietStores.store8_quiet _ _ (i + 1) byte (Nat.succ_pos i) (by omega) hrefused hlater]
        at hfails ⊢
      exact ih (offset + 1) (by omega) hfails

end Stores

section Contents

variable {D : Type} [Addressable D] [ByteContents D]

open ByteStores ByteContents

/-- Stores leave what is not stored to. -/
theorem content_storeBytesFrom_of_lt (device : D) (addr : Address) {offset before : Nat} (bytes : List U8)
    (hbefore : before < offset) (hsmall : offset + bytes.length < 2 ^ 64)
    (haccepted : ¬ refuses device (addr + BitVec.ofNat 64 before)) :
    content (storeBytesFrom device addr offset bytes).2 (addr + BitVec.ofNat 64 before) =
      content device (addr + BitVec.ofNat 64 before) := by
  induction bytes generalizing device offset with
  | nil => rfl
  | cons byte bytes ih =>
    by_cases hrefused : refuses device (addr + BitVec.ofNat 64 offset)
    · obtain ⟨error, herror⟩ := storeBytesFrom_refused byte bytes hrefused
      rw [herror]
    · rw [List.length_cons] at hsmall
      rw [storeBytesFrom_accepted byte bytes hrefused,
        ih _ (by omega) (by omega) (by rwa [refuses_store8]), content_store8 _ _ _ _ hrefused haccepted,
        if_neg]
      intro heq
      have hoffset := congrArg BitVec.toNat ((BitVec.add_right_inj addr).1 heq)
      rw [BitVec.toNat_ofNat, BitVec.toNat_ofNat, Nat.mod_eq_of_lt (by omega),
        Nat.mod_eq_of_lt (by omega)] at hoffset
      omega

/-- The bytes in front of the first refused one are stored. -/
theorem content_storeBytesFrom (device : D) (addr : Address) (offset : Nat) (bytes : List U8)
    (hsmall : offset + bytes.length < 2 ^ 64) {j : Nat} {byte : U8} (hj : bytes[j]? = some byte)
    (haccepted : ∀ i ≤ j, ¬ refuses device (addr + BitVec.ofNat 64 (offset + i))) :
    content (storeBytesFrom device addr offset bytes).2 (addr + BitVec.ofNat 64 (offset + j)) = byte := by
  induction bytes generalizing device offset j with
  | nil => cases hj
  | cons first bytes ih =>
    have hfirst : ¬ refuses device (addr + BitVec.ofNat 64 offset) := haccepted 0 (Nat.zero_le j)
    rw [List.length_cons] at hsmall
    rw [storeBytesFrom_accepted first bytes hfirst]
    obtain _ | j := j
    · cases hj
      have hsame : ¬ refuses (Addressable.store8 device (addr + BitVec.ofNat 64 offset) byte).2
          (addr + BitVec.ofNat 64 offset) := by
        rwa [refuses_store8]
      exact (content_storeBytesFrom_of_lt _ _ bytes (Nat.lt_succ_self offset) (by omega) hsame).trans
        ((content_store8 _ _ _ _ hfirst hfirst).trans (if_pos rfl))
    · have hrest := ih (Addressable.store8 device (addr + BitVec.ofNat 64 offset) first).2 (offset + 1)
        (j := j) (by omega) hj (fun i hi => by
          rw [refuses_store8, show offset + 1 + i = offset + (i + 1) by omega]
          exact haccepted (i + 1) (by omega))
      rwa [show offset + 1 + j = offset + (j + 1) by omega] at hrest

/-- A store of what is there already does nothing. -/
theorem storeBytesFrom_same (device : D) (addr : Address) (offset : Nat) (bytes : List U8)
    (hsame : ∀ j byte, bytes[j]? = some byte →
      (∀ i ≤ j, ¬ refuses device (addr + BitVec.ofNat 64 (offset + i))) →
      content device (addr + BitVec.ofNat 64 (offset + j)) = byte) :
    (storeBytesFrom device addr offset bytes).2 = device := by
  induction bytes generalizing offset with
  | nil => rfl
  | cons byte bytes ih =>
    by_cases hrefused : refuses device (addr + BitVec.ofNat 64 offset)
    · obtain ⟨error, herror⟩ := storeBytesFrom_refused byte bytes hrefused
      rw [herror]
    · have hfirst : content device (addr + BitVec.ofNat 64 offset) = byte :=
        hsame 0 byte rfl fun i hi => by rwa [Nat.le_zero.1 hi]
      rw [storeBytesFrom_accepted byte bytes hrefused, ← hfirst, store8_content _ _ hrefused]
      refine ih (offset + 1) fun j byte hj haccepted => ?_
      rw [show offset + 1 + j = offset + (j + 1) by omega]
      refine hsame (j + 1) byte hj fun i hi => ?_
      obtain _ | i := i
      · exact hrefused
      · rw [show offset + (i + 1) = offset + 1 + i by omega]
        exact haccepted i (by omega)

/-- A store changes a device if and only if some byte in front of the first refused one differs from what is
there. -/
theorem storeBytesFrom_eq_iff (device : D) (addr : Address) (bytes : List U8)
    (hsmall : bytes.length < 2 ^ 64) :
    (storeBytesFrom device addr 0 bytes).2 = device ↔ ∀ j byte, bytes[j]? = some byte →
      (∀ i ≤ j, ¬ refuses device (addr + BitVec.ofNat 64 i)) →
      content device (addr + BitVec.ofNat 64 j) = byte := by
  constructor
  · intro heq j byte hj haccepted
    have hstored := content_storeBytesFrom device addr 0 bytes (by omega) hj (by simpa using haccepted)
    rwa [heq, Nat.zero_add] at hstored
  · exact fun hsame => storeBytesFrom_same device addr 0 bytes (by simpa using hsame)

end Contents

end MemoryMap

end RvSim
