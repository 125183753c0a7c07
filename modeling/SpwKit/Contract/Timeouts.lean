import SpwKit.Ethernet.UdpBackend
import SpwKit.Device.DeviceBackend

/-!
# From timeouts to poll timeouts

A timeout in microseconds becomes a deadline when a call begins, and the time that is left
until the deadline becomes the timeout of a `poll` in milliseconds, where -1 stands for
waiting forever. Both backends with sockets do this by themselves, with 64-bit numbers and
with the largest of them as a mark: for the timeout that never ends and, in the DEVICE
backend, for the deadline that is none.

A timeout that ends leads to a poll that ends, and that does not end too early
(`finite_timeouts`), but for two corners: the UDP backend rounds up with an addition that may
wrap, and the DEVICE backend may compute the mark from a timeout that ends
(`timeout_corners`).
-/

open Interactive

/-- **A poll timeout that fits a deadline**: it ends, at once if the deadline has been
reached, and otherwise not before it unless an `int` cannot say so. -/
structure PollsUntil (deadline now : Nat) (ms : Int) : Prop where
  finite : ms ≠ -1
  zero_iff : ms = 0 ↔ deadline ≤ now
  enough : now < deadline → (min ((deadline - now + 999) / 1000) 2147483647 : Nat) ≤ ms

theorem pollsUntil_reached {deadline now : Nat} (h : deadline ≤ now) : PollsUntil deadline now 0 :=
  ⟨by decide, by simp [h], fun hlt => absurd h (not_le.mpr hlt)⟩

/-- The time that is left, rounded up and capped. -/
theorem pollsUntil_left {deadline now : Nat} (h : now < deadline) :
    PollsUntil deadline now (min ((deadline - now + 999) / 1000) 2147483647 : Nat) := by
  have hpos : 0 < min ((deadline - now + 999) / 1000) 2147483647 := by omega
  exact ⟨by omega, by omega, fun _ => le_refl _⟩

/-! ## The UDP backend -/

/-- The poll timeout of the UDP backend, from the timeout of a call. -/
def udpPollTimeout (timeoutUs : Timeout) : Udp Int := do
  let deadline ← deadlineMake timeoutUs
  let remaining ← deadlineRemaining deadline
  return timeoutMs remaining

theorem beyond_iff (start timeoutUs : UInt64) :
    0xffffffffffffffff - start < timeoutUs ↔ 2 ^ 64 - 1 < start.toNat + timeoutUs.toNat := by
  rw [UInt64.lt_iff_toNat_lt, UInt64.toNat_sub_of_le _ _
    (UInt64.le_iff_toNat_le.mpr (Nat.le_of_lt_succ start.toNat_lt))]
  show 2 ^ 64 - 1 - start.toNat < timeoutUs.toNat ↔ _
  have := start.toNat_lt
  omega

/-- The end of a deadline is the last time there is, if the timeout goes beyond. -/
theorem toNat_deadline (start timeoutUs : UInt64) :
    (if 0xffffffffffffffff - start < timeoutUs then 0xffffffffffffffff
      else start + timeoutUs : UInt64).toNat
      = min (start.toNat + timeoutUs.toNat) (2 ^ 64 - 1) := by
  split_ifs with h
  · exact (min_eq_right ((beyond_iff start timeoutUs).mp h).le).symm
  · rw [beyond_iff] at h
    rw [UInt64.toNat_add, Nat.mod_eq_of_lt (by omega), min_eq_left (by omega)]

/-- Rounding up, where it does not wrap. -/
theorem timeoutMs_eq {remaining : Timeout} (h : remaining.toNat + 999 < 2 ^ 64) :
    timeoutMs remaining = (min ((remaining.toNat + 999) / 1000) 2147483647 : Nat) := by
  have hfinite : remaining ≠ timeoutInfinite := by
    rintro rfl
    exact absurd h (by decide)
  have hround : ((remaining + 999) / 1000).toNat = (remaining.toNat + 999) / 1000 := by
    rw [UInt64.toNat_div, UInt64.toNat_add]
    exact congrArg (· / 1000) (Nat.mod_eq_of_lt h)
  unfold timeoutMs
  rw [if_neg hfinite]
  dsimp only
  rw [hround]
  split_ifs <;> omega

/-- Rounding up, where it wraps: to forever or to no time at all. -/
theorem timeoutMs_wraps {remaining : Timeout} (h : 2 ^ 64 ≤ remaining.toNat + 999) :
    timeoutMs remaining = -1 ∨ timeoutMs remaining = 0 := by
  have := UInt64.toNat_lt remaining
  have hround : ((remaining + 999) / 1000).toNat = 0 := by
    rw [UInt64.toNat_div, UInt64.toNat_add, show (999 : UInt64).toNat = 999 from rfl,
      show (1000 : UInt64).toNat = 1000 from rfl]
    omega
  unfold timeoutMs
  dsimp only
  rw [hround]
  split_ifs <;> simp_all

/-- The time that is left until a deadline becomes a timeout that fits it just when there is
none or rounding it up does not wrap. -/
theorem pollsUntil_timeoutMs_iff (deadline now : UInt64) :
    PollsUntil deadline.toNat now.toNat
        (timeoutMs (if deadline ≤ now then timeoutImmediate else deadline - now))
      ↔ deadline.toNat ≤ now.toNat ∨ deadline.toNat - now.toNat + 999 < 2 ^ 64 := by
  split_ifs with hreached
  · have hle := UInt64.le_iff_toNat_le.mp hreached
    exact ⟨fun _ => .inl hle, fun _ => pollsUntil_reached hle⟩
  · rw [UInt64.le_iff_toNat_le, not_le] at hreached
    have hleft : (deadline - now).toNat = deadline.toNat - now.toNat :=
      UInt64.toNat_sub_of_le _ _ (UInt64.le_iff_toNat_le.mpr hreached.le)
    refine ⟨fun h => ?_, fun h => ?_⟩
    · by_contra hwraps
      obtain hms | hms := timeoutMs_wraps
        (show 2 ^ 64 ≤ (deadline - now).toNat + 999 by omega)
      · exact h.finite hms
      · exact absurd (h.zero_iff.mp hms) (not_le.mpr hreached)
    · rw [timeoutMs_eq (by omega), hleft]
      exact pollsUntil_left hreached

theorem udpPollTimeout_fits_iff {timeoutUs : Timeout} (hfinite : timeoutUs ≠ timeoutInfinite)
    (b : UdpBackend) (oracle : UdpOracle) {start later : UInt64}
    (hstart : oracle 0 .clock = start) (hlater : oracle 1 .clock = later) :
    (∃ calls ms, (udpPollTimeout timeoutUs b).replay oracle 0 = (calls, some (b, ms))
        ∧ PollsUntil (min (start.toNat + timeoutUs.toNat) (2 ^ 64 - 1)) later.toNat ms)
      ↔ min (start.toNat + timeoutUs.toNat) (2 ^ 64 - 1) ≤ later.toNat
        ∨ min (start.toNat + timeoutUs.toNat) (2 ^ 64 - 1) - later.toNat + 999 < 2 ^ 64 := by
  have hreplay : (udpPollTimeout timeoutUs b).replay oracle 0 = ([.clock, .clock], some (b,
      timeoutMs (if (if 0xffffffffffffffff - start < timeoutUs then 0xffffffffffffffff
        else start + timeoutUs : UInt64) ≤ later then timeoutImmediate
        else (if 0xffffffffffffffff - start < timeoutUs then 0xffffffffffffffff
          else start + timeoutUs : UInt64) - later))) := by
    rw [← hstart, ← hlater]
    unfold udpPollTimeout deadlineMake
    rw [if_neg hfinite]
    rfl
  rw [hreplay, ← toNat_deadline, ← pollsUntil_timeoutMs_iff]
  refine ⟨?_, fun h => ⟨_, _, rfl, h⟩⟩
  rintro ⟨calls, ms, heq, h⟩
  cases heq
  exact h

/-! ## The DEVICE backend -/

namespace Device

/-- The poll timeout of the DEVICE backend, from the timeout of a call. -/
def callPollTimeout (timeoutUs : Timeout) : Program Int := do
  let deadline ← deadlineFor timeoutUs
  pollTimeoutMs deadline

/-- The poll timeout for a deadline that is one, at a time. -/
def msUntil (deadline now : UInt64) : Int :=
  if now ≥ deadline then 0
  else if deadline - now > 2147483647 * 1000 then 2147483647
  else ((deadline - now + 999) / 1000).toNat

theorem pollsUntil_msUntil (deadline now : UInt64) :
    PollsUntil deadline.toNat now.toNat (msUntil deadline now) := by
  unfold msUntil
  split_ifs with hreached hfar
  · exact pollsUntil_reached (UInt64.le_iff_toNat_le.mp hreached)
  all_goals
    rw [ge_iff_le, UInt64.le_iff_toNat_le, not_le] at hreached
    have hleft : (deadline - now).toNat = deadline.toNat - now.toNat :=
      UInt64.toNat_sub_of_le _ _ (UInt64.le_iff_toNat_le.mpr hreached.le)
    rw [gt_iff_lt, UInt64.lt_iff_toNat_lt, hleft,
      show ((2147483647 * 1000 : UInt64)).toNat = 2147483647000 from rfl] at hfar
    convert pollsUntil_left hreached using 1
  · omega
  · rw [UInt64.toNat_div, UInt64.toNat_add, hleft, show (999 : UInt64).toNat = 999 from rfl,
      show (1000 : UInt64).toNat = 1000 from rfl, Nat.mod_eq_of_lt (by omega)]
    omega

theorem replay_pollTimeoutMs {deadline : UInt64} (h : deadline ≠ noDeadline) (c : Context)
    (oracle : Nat → (q : Request) → q.Answer) (n : Nat) :
    (pollTimeoutMs deadline c).replay oracle n
      = ([.clock], some (c, msUntil deadline (oracle n .clock))) := by
  have hask : ∃ k : UInt64 → Step Request Request.Answer Context Int,
      pollTimeoutMs deadline c = .ask c .clock k
        ∧ ∀ now, k now = .done c (msUntil deadline now) := by
    unfold pollTimeoutMs
    rw [if_neg h]
    refine ⟨_, rfl, fun now => ?_⟩
    show (if now ≥ deadline then pure 0 else _ : Program Int) c = _
    unfold msUntil
    split_ifs <;> rfl
  obtain ⟨k, hask, hk⟩ := hask
  simp only [hask, Step.replay, show k (oracle n .clock) = _ from hk _]

theorem callPollTimeout_fits_iff {timeoutUs : Timeout} (hfinite : timeoutUs ≠ timeoutInfinite)
    (c : Context) (oracle : Nat → (q : Request) → q.Answer) {start later : UInt64}
    (hstart : oracle 0 .clock = start) (hlater : oracle 1 .clock = later) :
    (∃ calls ms, (callPollTimeout timeoutUs c).replay oracle 0 = (calls, some (c, ms))
        ∧ PollsUntil (min (start.toNat + timeoutUs.toNat) (2 ^ 64 - 2)) later.toNat ms)
      ↔ start.toNat + timeoutUs.toNat ≠ 2 ^ 64 - 1 := by
  obtain ⟨deadline, hdeadline⟩ : ∃ deadline : UInt64, deadline
    = if noDeadline - start < timeoutUs then noDeadline - 1 else start + timeoutUs := ⟨_, rfl⟩
  have hmake : (deadlineFor timeoutUs c).replay oracle 0 = ([.clock], some (c, deadline)) := by
    unfold deadlineFor
    rw [if_neg hfinite, hdeadline, ← hstart]
    rfl
  have htoNat : deadline.toNat = if 2 ^ 64 - 1 < start.toNat + timeoutUs.toNat then 2 ^ 64 - 2
      else start.toNat + timeoutUs.toNat := by
    rw [hdeadline]
    unfold noDeadline
    simp only [beyond_iff]
    split_ifs
    · rfl
    · rw [UInt64.toNat_add, Nat.mod_eq_of_lt (by omega)]
  have hcall := Step.replay_bind_of_some oracle pollTimeoutMs hmake
  change (callPollTimeout timeoutUs c).replay oracle 0 = _ at hcall
  by_cases hmark : deadline = noDeadline
  · -- the mark of no deadline at all, which a timeout that ends should not give
    subst hmark
    rw [show noDeadline.toNat = 2 ^ 64 - 1 from rfl] at htoNat
    refine ⟨?_, fun hne => absurd htoNat (by split_ifs <;> omega)⟩
    rintro ⟨calls, ms, hreplay, h⟩
    rw [hcall] at hreplay
    cases hreplay
    exact absurd rfl h.finite
  · rw [replay_pollTimeoutMs hmark] at hcall
    have hne : deadline.toNat ≠ 2 ^ 64 - 1 := fun h => hmark (UInt64.toNat_inj.mp h)
    refine ⟨fun _ heq => hne (by rw [htoNat]; split_ifs <;> omega), fun _ => ⟨_, _, hcall, ?_⟩⟩
    show PollsUntil _ _ (msUntil deadline (oracle 1 .clock))
    rw [hlater, show min (start.toNat + timeoutUs.toNat) (2 ^ 64 - 2) = deadline.toNat by
      rw [htoNat] at hne ⊢; split_ifs at hne ⊢ <;> omega]
    exact pollsUntil_msUntil deadline later

end Device

/-- **Finite timeouts stay finite and are never cut short**: in the UDP backend just when the
deadline has been reached or the time that is left until it can be rounded up without a wrap,
in the DEVICE backend just when the timeout does not end at the last time there is. And a
timeout that never ends is never made to end. -/
theorem finite_timeouts (b : UdpBackend) (c : Device.Context) (timeoutUs : Timeout)
    (start later : UInt64) :
    (timeoutUs ≠ timeoutInfinite →
      (∀ oracle : UdpOracle, oracle 0 .clock = start →
        oracle 1 .clock = later →
        ((∃ calls ms, (udpPollTimeout timeoutUs b).replay oracle 0 = (calls, some (b, ms))
          ∧ PollsUntil (min (start.toNat + timeoutUs.toNat) (2 ^ 64 - 1)) later.toNat ms)
        ↔ min (start.toNat + timeoutUs.toNat) (2 ^ 64 - 1) ≤ later.toNat
          ∨ min (start.toNat + timeoutUs.toNat) (2 ^ 64 - 1) - later.toNat + 999 < 2 ^ 64))
      ∧ (∀ oracle : Nat → (q : Device.Request) → q.Answer, oracle 0 .clock = start →
        oracle 1 .clock = later →
        ((∃ calls ms, (Device.callPollTimeout timeoutUs c).replay oracle 0
            = (calls, some (c, ms))
          ∧ PollsUntil (min (start.toNat + timeoutUs.toNat) (2 ^ 64 - 2)) later.toNat ms)
        ↔ start.toNat + timeoutUs.toNat ≠ 2 ^ 64 - 1)))
    ∧ (timeoutUs = timeoutInfinite → udpPollTimeout timeoutUs b = .done b (-1)
      ∧ Device.callPollTimeout timeoutUs c = .done c (-1)) := by
  refine ⟨fun hfinite => ⟨fun oracle hstart hlater => ?_, fun oracle hstart hlater => ?_⟩,
    fun hinfinite => ?_⟩
  · exact udpPollTimeout_fits_iff hfinite b oracle hstart hlater
  · exact Device.callPollTimeout_fits_iff hfinite c oracle hstart hlater
  · subst hinfinite
    exact ⟨rfl, rfl⟩

/-- A clock with two readings. -/
def readings (start later : UInt64) (n : Nat) : UInt64 := if n = 0 then start else later

/-- The clock of a UDP backend, in an environment that does nothing else. -/
def udpReadings (start later : UInt64) (n : Nat) : (q : UdpRequest) → q.Answer
  | .clock => readings start later n
  | .clockAndPid => (readings start later n, 0)
  | .sendto _ => .wouldBlock
  | .pollOut _ => .timedOut
  | .recvfrom => .wouldBlock
  | .pollIn _ => .timedOut
  | .nanosleep _ => .slept

/-- The clock of a DEVICE backend, likewise. -/
def Device.deviceReadings (start later : UInt64) (n : Nat) : (q : Request) → q.Answer
  | .clock => readings start later n
  | .poll _ _ => .timedOut
  | .send _ => .wouldBlock
  | .recv => .wouldBlock
  | .connect => .refused
  | .close => ()

theorem finite_timeouts_second :
    ∃ calls ms, (udpPollTimeout 1000000 (udpConstruct .sample 0 true true).2).replay
        (udpReadings 0 1) 0
        = (calls, some ((udpConstruct .sample 0 true true).2, ms))
      ∧ PollsUntil 1000000 1 ms :=
  (((finite_timeouts _ (.initial 0) 1000000 0 1).1 (by decide)).1 _ rfl rfl).mpr
    (.inr (by decide))

/-- **The corners.** At the beginning of the clock, the longest timeout but one is no time at
all for a UDP backend; and one that ends at the last time there is, is forever for a DEVICE
backend. -/
theorem timeout_corners :
    (∀ b, (udpPollTimeout 0xfffffffffffffffe b).replay (udpReadings 0 0) 0
        = ([.clock, .clock], some (b, 0)))
    ∧ ¬ PollsUntil (0 + 0xfffffffffffffffe) 0 0
    ∧ (∀ c, (Device.callPollTimeout 0xfffffffffffffffe c).replay (Device.deviceReadings 1 1) 0
        = ([.clock], some (c, -1)))
    ∧ ¬ PollsUntil (1 + 0xfffffffffffffffe) 1 (-1) :=
  ⟨fun _ => rfl, fun h => absurd (h.zero_iff.mp rfl) (by decide), fun _ => rfl,
    fun h => h.finite rfl⟩
