import CrossFlow.Proofs.Transport.SendThreads

/-!
# `CrossFlow.Proofs.Transport.Backlog`: `backlog_` under threads that send at once

* `backlogMove_stepSend`: what one step of a thread does to the backlog.
* `backlog_balance`: no run takes more from `backlog_` than was added to it.
-/

set_option autoImplicit false

namespace CrossFlow

open Lib (Machine Mutex)

namespace SendThreads

/-- `backlog_` counts the additions that were not taken back. -/
structure Balanced (s : SendThreads) : Prop where
  guards : s.sendMutex.Guards fun t => (s.threads t).Guarded
  le : s.subs ≤ s.adds
  backlog : s.backlog = UInt32.ofNat (s.adds - s.subs)
  /-- A thread that is about to take one back has one to take back. -/
  pending : ∀ t, s.threads t = .subBacklog → s.subs < s.adds

variable {s : SendThreads}

/-- With a backlog, fewer were taken off than were added. -/
theorem lt_of_backlog_pos (h : s.Balanced) (hpos : s.backlog > 0) : s.subs < s.adds := by
  have hle := h.le
  have hne : s.adds - s.subs ≠ 0 := by
    intro hzero
    rw [h.backlog, hzero] at hpos
    exact absurd hpos (by decide)
  omega

/-- One less than a successor, modulo 2^32. -/
theorem ofNat_succ_sub_one (n : Nat) : UInt32.ofNat (n + 1) - 1 = UInt32.ofNat n := by
  rw [UInt32.ofNat_add]
  exact UInt32.add_sub_cancel _ 1

/-- What a step of a thread does to the backlog. -/
inductive BacklogMove (s s' : SendThreads) (t : Nat) : Prop where
  | quiet (hbacklog : s'.backlog = s.backlog) (hadds : s'.adds = s.adds) (hsubs : s'.subs = s.subs)
      (hpc : s'.threads t = .subBacklog → s.threads t = .subBacklog ∨ s.backlog > 0) :
      BacklogMove s s' t
  | adds (hbacklog : s'.backlog = s.backlog + 1) (hadds : s'.adds = s.adds + 1)
      (hsubs : s'.subs = s.subs) (hpc : s'.threads t ≠ .subBacklog) : BacklogMove s s' t
  | subs (hbefore : s.threads t = .subBacklog) (hbacklog : s'.backlog = s.backlog - 1)
      (hadds : s'.adds = s.adds) (hsubs : s'.subs = s.subs + 1)
      (hpc : s'.threads t ≠ .subBacklog) : BacklogMove s s' t

/-- What a step of a sender does to the backlog. -/
theorem backlogMove_stepSend (s : SendThreads) (t : Nat) (ret : Int) :
    BacklogMove s (s.stepSend t ret) t := by
  have hgoto : ∀ (s₁ : SendThreads) (pc : SendPc), s₁.backlog = s.backlog → s₁.adds = s.adds →
      s₁.subs = s.subs → pc ≠ .subBacklog → BacklogMove s (s₁.goto t pc) t := by
    intro s₁ pc hbacklog hadds hsubs hpc
    refine .quiet hbacklog hadds hsubs fun h => ?_
    rw [threads_goto] at h
    exact absurd h hpc
  have hadd : ∀ pc : SendPc, pc ≠ .subBacklog → BacklogMove s (s.addBacklog.goto t pc) t := by
    intro pc hpc
    refine .adds rfl rfl rfl ?_
    rwa [threads_goto]
  unfold stepSend
  cases hpc : s.threads t with
  | idle => exact .quiet rfl rfl rfl .inl
  | loadConnected call =>
    dsimp only
    split
    · exact hgoto s _ rfl rfl rfl nofun
    · split <;> exact hgoto s _ rfl rfl rfl nofun
  | backlogUnsent => exact hadd _ nofun
  | lock call =>
    dsimp only
    split
    · exact hgoto _ _ rfl rfl rfl nofun
    · exact .quiet rfl rfl rfl .inl
  | loadSocket call => exact hgoto s _ rfl rfl rfl nofun
  | header call fd left =>
    dsimp only
    split
    · refine hgoto s _ rfl rfl rfl ?_
      cases call.plane <;> exact nofun
    · refine hgoto (s.append _ _) _ rfl rfl rfl ?_
      split <;> exact nofun
  | body call fd left =>
    dsimp only
    split
    · refine hgoto s _ rfl rfl rfl ?_
      cases call.plane <;> exact nofun
    · split
      · exact hgoto ((s.append _ _).complete _ _) _ rfl rfl rfl nofun
      · exact hgoto (s.append _ _) _ rfl rfl rfl nofun
  | backlogFailed => exact hadd _ nofun
  | countSent plane => cases plane <;> exact hgoto _ _ rfl rfl rfl nofun
  -- The thread goes to the `fetch_sub` only from a backlog that was above 0 when it looked.
  | loadBacklog =>
    refine .quiet rfl rfl rfl fun h => .inr ?_
    rw [threads_goto] at h
    split at h
    · assumption
    · cases h
  | subBacklog =>
    refine .subs hpc rfl rfl rfl ?_
    rw [threads_goto]
    exact nofun
  | unlock => exact hgoto _ _ rfl rfl rfl nofun

/-- A step of a sender keeps the balance. -/
theorem balanced_stepSend (h : s.Balanced) (t : Nat) (ret : Int) : (s.stepSend t ret).Balanced := by
  have hguards := guards_stepSend h.guards t ret
  have hsame := sameWires_stepSend s t ret
  have hmove := backlogMove_stepSend s t ret
  generalize s.stepSend t ret = s' at hguards hsame hmove
  have hle := h.le
  cases hmove with
  | quiet hbacklog hadds hsubs hpc =>
    refine ⟨hguards, ?_, ?_, ?_⟩
    · rwa [hadds, hsubs]
    · rw [hbacklog, hadds, hsubs]
      exact h.backlog
    · intro u hu
      rw [hadds, hsubs]
      by_cases hut : u = t
      · rw [hut] at hu
        rcases hpc hu with hbefore | hpos
        · exact h.pending t hbefore
        · exact lt_of_backlog_pos h hpos
      · rw [hsame.others u hut] at hu
        exact h.pending u hu
  | adds hbacklog hadds hsubs hpc =>
    refine ⟨hguards, ?_, ?_, ?_⟩
    · rw [hadds, hsubs]
      omega
    · -- What is added while another thread is between its two accesses only makes room.
      have hsucc : s.adds + 1 - s.subs = s.adds - s.subs + 1 := by omega
      rw [hbacklog, h.backlog, hadds, hsubs, hsucc, UInt32.ofNat_add]
      rfl
    · intro u hu
      rw [hadds, hsubs]
      omega
  | subs hbefore hbacklog hadds hsubs hpc =>
    have hlt := h.pending t hbefore
    refine ⟨hguards, ?_, ?_, ?_⟩
    · rw [hadds, hsubs]
      omega
    · have hsucc : s.adds - s.subs = s.adds - (s.subs + 1) + 1 := by omega
      rw [hbacklog, h.backlog, hadds, hsubs, hsucc, ofNat_succ_sub_one]
    · intro u hu
      have hut : u ≠ t := by
        rintro rfl
        exact hpc hu
      -- No other thread was in the guarded part.
      rw [hsame.others u hut] at hu
      refine absurd (h.guards.unique ?_ ?_) hut
      · rw [hu]
        trivial
      · rw [hbefore]
        trivial

/-- Every step keeps the balance. -/
theorem balanced_step (s : SendThreads) (a : SendAction) (h : s.Balanced) :
    (sendMachine.step s a).Balanced := by
  have hguards := guards_step h.guards a
  cases a with
  | callSend t call =>
    show (s.callSend t call).Balanced
    change (s.callSend t call).sendMutex.Guards
      fun u => ((s.callSend t call).threads u).Guarded at hguards
    unfold callSend at hguards ⊢
    cases hidle : s.threads t with
    | idle =>
      rw [hidle] at hguards
      refine ⟨hguards, h.le, h.backlog, fun u hu => h.pending u ?_⟩
      change Function.update s.threads t _ u = _ at hu
      -- A call that begins has counted nothing, so no thread has more pending than before.
      by_cases hut : u = t
      · rw [hut, Function.update_self] at hu
        cases hu
      · rwa [Function.update_of_ne hut] at hu
    | _ => exact h
  | stepSend t ret => exact balanced_stepSend h t ret
  | setConnected connected => exact ⟨hguards, h.le, h.backlog, h.pending⟩
  | openConnection fd =>
    show (s.openConnection fd).Balanced
    unfold openConnection
    split
    · exact h
    · exact ⟨h.guards, h.le, h.backlog, h.pending⟩
  | install plane fd => cases plane <;> exact ⟨hguards, h.le, h.backlog, h.pending⟩
  | closeConnection fd => exact ⟨hguards, h.le, h.backlog, h.pending⟩
  | closeSocket plane =>
    -- Closing a connection is not counted.
    have hclose : ∀ fd, (s.closeConnection fd).Balanced := fun fd => by
      cases fd <;> exact ⟨h.guards, h.le, h.backlog, h.pending⟩
    obtain ⟨hguards, hle, hbacklog, hpending⟩ := hclose (s.socket plane)
    cases plane <;> exact ⟨hguards, hle, hbacklog, hpending⟩

/-- The backlog is balanced at the start. -/
theorem balanced_init : init.Balanced where
  guards := Mutex.guards_free fun _ => id
  le := Nat.le_refl 0
  backlog := rfl
  pending := fun _ h => nomatch h

end SendThreads

open SendThreads in
/-- The check `bl > 0` and the `fetch_sub` after it are two accesses, and other threads add to the
backlog meanwhile; but in no run is more taken from `backlog_` than was added to it. -/
theorem backlog_balance (as : List SendAction) :
    (sendMachine.run as).subs ≤ (sendMachine.run as).adds ∧
      (sendMachine.run as).backlog =
        UInt32.ofNat ((sendMachine.run as).adds - (sendMachine.run as).subs) := by
  have h : sendMachine.Invariant Balanced := .of_step balanced_init balanced_step
  exact ⟨(h as).le, (h as).backlog⟩

end CrossFlow
