/-
# Datagrams

What `ManagedUDPListener._handle` makes of one datagram before it asks for anything outside the
process: the source check, the parser, and the rate limiter of `app/rate_limit.py`. A limiter
remembers when it last allowed each pair of a port and a MAC address; its clock is a parameter, and
the difference of two readings is rounded to a float.
-/

import Wolt.Engine.Runtime
import Wolt.Wake.MagicPacket
import Wolt.Python.Double
import Mathlib.Logic.Function.Basic

namespace Wolt.Engine

open Wolt.Python Wolt.Wake

/-- What `recvfrom` returns. -/
structure Datagram where
  data : List UInt8
  sourceIp : Text
  deriving DecidableEq

/-- The MAC address of a datagram that comes from the allowed source and is a magic packet. -/
def RuntimeMapping.accepts (mapping : RuntimeMapping) (datagram : Datagram) : Option Text :=
  if datagram.sourceIp ≠ mapping.allowedSourceIp then none
  else match parseMagicPacket datagram.data with
    | .ok packet => some packet.macAddress
    | .error _ => none

/-- A magic packet for one MAC address. -/
def magicDatagram (sourceIp : Text) : Datagram :=
  ⟨List.replicate 6 0xff ++ (List.replicate 16 [1, 2, 3, 4, 5, 6]).flatten, sourceIp⟩

/-- `RateLimiter`. -/
structure RateLimiter where
  interval : ℚ
  lastAllowed : ℤ × Text → Option ℚ

namespace RateLimiter

/-- `RateLimiter(interval_seconds)`. -/
def new (interval : ℚ) : RateLimiter := ⟨interval, fun _ => none⟩

/-- The cooldown of the key is over. -/
def isOver (limiter : RateLimiter) (key : ℤ × Text) (now : ℚ) : Bool :=
  match limiter.lastAllowed key with
  | some previous => limiter.interval ≤ subDouble now previous
  | none => true

/-- `RateLimiter.allow`. -/
def allow (limiter : RateLimiter) (key : ℤ × Text) (now : ℚ) : Bool × RateLimiter :=
  if limiter.isOver key now then
    (true, { limiter with lastAllowed := Function.update limiter.lastAllowed key (some now) })
  else (false, limiter)

variable {limiter : RateLimiter} {key : ℤ × Text} {now : ℚ}

theorem interval_allow : (limiter.allow key now).2.interval = limiter.interval := by
  unfold allow
  split <;> rfl

/-- What was allowed last, before a permission. -/
theorem interval_le_of_allow {previous : ℚ} (hallow : (limiter.allow key now).1 = true)
    (hprevious : limiter.lastAllowed key = some previous) :
    limiter.interval ≤ subDouble now previous := by
  unfold allow at hallow
  split at hallow
  · rename_i hover
    simpa [isOver, hprevious] using hover
  · cases hallow

/-- What was allowed last, after a permission. -/
theorem lastAllowed_allow (hallow : (limiter.allow key now).1 = true) :
    (limiter.allow key now).2.lastAllowed key = some now := by
  unfold allow at hallow ⊢
  split
  · exact Function.update_self ..
  · rename_i hover
    rw [if_neg hover] at hallow
    cases hallow

theorem lastAllowed_allow_of_ne {other : ℤ × Text} (hkey : other ≠ key) :
    (limiter.allow key now).2.lastAllowed other = limiter.lastAllowed other := by
  unfold allow
  split
  · exact Function.update_of_ne hkey ..
  · rfl

/-- A key keeps what was allowed for it, or gets something later. -/
theorem exists_lastAllowed_allow {other : ℤ × Text} {previous : ℚ}
    (hprevious : limiter.lastAllowed other = some previous) (hle : previous ≤ now) :
    ∃ last, (limiter.allow key now).2.lastAllowed other = some last ∧ previous ≤ last := by
  by_cases hkey : other = key
  · subst hkey
    unfold allow
    split
    · exact ⟨now, Function.update_self .., hle⟩
    · exact ⟨previous, hprevious, le_rfl⟩
  · exact ⟨previous, (lastAllowed_allow_of_ne hkey).trans hprevious, le_rfl⟩

end RateLimiter

end Wolt.Engine
