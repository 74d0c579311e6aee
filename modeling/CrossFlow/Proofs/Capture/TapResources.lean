import CrossFlow.Lib.OwnedRefs
import CrossFlow.Platform.Mac.TapResources

/-!
# `CrossFlow.Proofs.Capture.TapResources`: what a tap leaves in the system

By the rule of Core Foundation the caller of a function with `Create` in its name owns a reference
to the object that it returns, and gives it up with `CFRelease`. The references that a tap owns are
those to its event taps and their sources: the ones it has pointers to, and the ones whose pointers
a later `start` has overwritten. A `start` whose thread cannot be started throws with the event tap
installed and the state still `Inactive`, so that `stop` and the destructor leave it where it is.

* `SystemCall.references`, `SystemCall.sources`: what a call does with the references of the
  process, and with the sources of the run loop.
* `Accounts`: what is owned after some calls of the system.
* `ResourceInv`: the references of a tap are all there are.
* `control_run`: but for a `start` that throws, the calls do to the state what they do in
  `tapControlMachine`.
* `taps_accounted`: the account of the event taps, after any run.
-/

set_option autoImplicit false

namespace CrossFlow

open Lib (Machine Owned RefStep)

/-! ### The system -/

namespace SystemCall

/-- What a call does with the references that the process owns. A function that is given a pointer
uses it. -/
def references : SystemCall → List (RefStep Nat)
  | .CFDictionaryCreate options => options.toList.map .acquire
  | .AXIsProcessTrustedWithOptions options _ => options.toList.map .use
  | .CGPreflightListenEventAccess _ => []
  | .CGRequestListenEventAccess => []
  | .CGEventTapCreate tap => tap.toList.map .acquire
  | .CFMachPortCreateRunLoopSource tap src => .use tap :: src.toList.map .acquire
  | .CFRunLoopAddSource src => [.use src]
  | .CFRunLoopRemoveSource src => [.use src]
  | .CGEventTapEnable tap => [.use tap]
  | .CFRelease o => [.release o]

/-- What a call does with the sources that were added to the run loop and not removed. -/
def sources : SystemCall → List (RefStep Nat)
  | .CFRunLoopAddSource src => [.acquire src]
  | .CFRunLoopRemoveSource src => [.release src]
  | _ => []

end SystemCall

/-- The references to installed event taps and to their sources. -/
def tapRefs (taps : List (Nat × Nat)) : Multiset Nat := taps.flatMap fun tap => [tap.2, tap.1]

/-- The references to the event taps `taps` and the references `refs` are owned, and no others; and
the sources that were added to the run loop and not removed are those of the taps. -/
structure Accounts (calls : List SystemCall) (taps : List (Nat × Nat)) (refs : Multiset Nat) :
    Prop where
  held : Owned (calls.flatMap SystemCall.references) (refs + tapRefs taps)
  runLoop : Owned (calls.flatMap SystemCall.sources) (taps.map Prod.snd : Multiset Nat)

/-- Before the first call nothing is held. -/
theorem accounts_nil : Accounts [] [] 0 where
  held := .nil
  runLoop := .nil

/-- One more tap has two references. -/
theorem tapRefs_append (taps : List (Nat × Nat)) (tap src : Nat) :
    tapRefs (taps ++ [(tap, src)]) = tapRefs taps + {src, tap} := by
  unfold tapRefs
  rw [List.flatMap_append, ← Multiset.coe_add]
  rfl

namespace Accounts

variable {calls : List SystemCall} {taps : List (Nat × Nat)} {refs : Multiset Nat} {o : Nat}

/-- A call that is not about the run loop changes only what is owned. -/
theorem call (h : Accounts calls taps refs) {c : SystemCall} {refs' : Multiset Nat}
    (hheld : Owned (calls.flatMap SystemCall.references ++ c.references) (refs' + tapRefs taps))
    (hsources : c.sources = []) : Accounts (calls ++ [c]) taps refs' where
  held := by
    rw [List.flatMap_append, List.flatMap_singleton]
    exact hheld
  runLoop := by
    rw [List.flatMap_append, List.flatMap_singleton, hsources, List.append_nil]
    exact h.runLoop

/-- A call that is given no pointer and returns none. -/
theorem quiet (h : Accounts calls taps refs) {c : SystemCall} (hreferences : c.references = [])
    (hsources : c.sources = []) : Accounts (calls ++ [c]) taps refs := by
  refine h.call ?_ hsources
  rw [hreferences, List.append_nil]
  exact h.held

/-- A call that creates an object. -/
theorem create (h : Accounts calls taps refs) {c : SystemCall}
    (hreferences : c.references = [.acquire o]) (hsources : c.sources = []) :
    Accounts (calls ++ [c]) taps (o ::ₘ refs) := by
  refine h.call ?_ hsources
  rw [hreferences, Multiset.cons_add]
  exact h.held.acquire o

/-- A call that is given an object. -/
theorem use (h : Accounts calls taps refs) (ho : o ∈ refs) {c : SystemCall}
    (hreferences : c.references = [.use o]) (hsources : c.sources = []) :
    Accounts (calls ++ [c]) taps refs := by
  refine h.call ?_ hsources
  rw [hreferences]
  exact h.held.use (Multiset.mem_add.mpr (.inl ho))

/-- A source is created of a tap that is owned. -/
theorem createSource {tap : Nat} (h : Accounts calls taps refs) (src : Nat) (htap : tap ∈ refs) :
    Accounts (calls ++ [.CFMachPortCreateRunLoopSource tap (some src)]) taps (src ::ₘ refs) := by
  refine h.call ?_ rfl
  have hused := h.held.use (Multiset.mem_add.mpr (.inl htap))
  have hcreated := hused.acquire src
  rw [List.append_assoc] at hcreated
  rw [Multiset.cons_add]
  exact hcreated

/-- A reference is given up. -/
theorem release (h : Accounts calls taps (o ::ₘ refs)) :
    Accounts (calls ++ [.CFRelease o]) taps refs := by
  refine h.call ?_ rfl
  have hheld := h.held
  rw [Multiset.cons_add] at hheld
  exact hheld.release

/-- A tap and its source are installed when the run loop has the source. -/
theorem addSource {tap src : Nat} (h : Accounts calls taps {src, tap}) :
    Accounts (calls ++ [.CFRunLoopAddSource src] ++ [.CGEventTapEnable tap]) (taps ++ [(tap, src)])
      0 where
  held := by
    have hsrc := h.held.use (o := src) (Multiset.mem_add.mpr (.inl (by simp)))
    have htap := hsrc.use (o := tap) (Multiset.mem_add.mpr (.inl (by simp)))
    rw [zero_add, tapRefs_append, add_comm, List.flatMap_append, List.flatMap_append]
    exact htap
  runLoop := by
    have hadded := h.runLoop.acquire src
    rw [List.map_append, ← Multiset.coe_add, add_comm, List.flatMap_append, List.flatMap_append]
    show Owned (_ ++ []) _
    rw [List.append_nil]
    exact hadded

/-- What is left when the source and the tap that were installed last are taken out. -/
theorem removeSource {tap src : Nat} (h : Accounts calls (taps ++ [(tap, src)]) 0) :
    Accounts (calls ++ [.CFRunLoopRemoveSource src] ++ [.CFRelease src] ++ [.CFRelease tap])
      taps 0 := by
  have hremoved : Accounts (calls ++ [.CFRunLoopRemoveSource src]) taps {src, tap} := by
    have hheld := h.held
    have hsources := h.runLoop
    rw [zero_add, tapRefs_append, add_comm] at hheld
    rw [List.map_append, ← Multiset.coe_add, add_comm] at hsources
    constructor
    · rw [List.flatMap_append]
      exact hheld.use (Multiset.mem_add.mpr (.inl (by simp)))
    · rw [List.flatMap_append]
      exact Owned.release hsources
  exact hremoved.release.release

end Accounts

/-! ### The permissions -/

namespace A11yPermissionGuard

variable {calls : List SystemCall} {taps : List (Nat × Nat)} {refs : Multiset Nat}

/-- The dictionary is released, if there is one. -/
theorem askTrusted_spec (h : Accounts calls taps refs) (options : Option Nat) (trusted : Bool) :
    Accounts (calls ++ askTrusted options trusted) taps refs := by
  unfold askTrusted
  cases options with
  | none =>
    have hcreate := h.quiet (c := .CFDictionaryCreate none) rfl rfl
    have hask := hcreate.quiet (c := .AXIsProcessTrustedWithOptions none trusted) rfl rfl
    rw [List.append_assoc] at hask
    exact hask
  | some o =>
    have hcreate := h.create (c := .CFDictionaryCreate (some o)) rfl rfl
    have hask := hcreate.use (c := .AXIsProcessTrustedWithOptions (some o) trusted)
      (Multiset.mem_cons_self o refs) rfl rfl
    have hrelease := hask.release
    rw [List.append_assoc, List.append_assoc] at hrelease
    exact hrelease

/-- The request for the access leaves nothing behind. -/
theorem request_spec {asked : List SystemCall} (h : Accounts (calls ++ asked) taps refs) :
    Accounts (calls ++ (asked ++ [.CGRequestListenEventAccess])) taps refs := by
  rw [← List.append_assoc]
  exact h.quiet rfl rfl

/-- The user is asked for what is missing, and nothing is left of the questions. -/
theorem ensurePermissions_spec (guard : A11yPermissionGuard) (h : Accounts calls taps refs)
    (answers : PermissionAnswers) :
    (guard.ensurePermissions answers).1 = (answers.trusted && answers.listens) ∧
      Accounts (calls ++ (guard.ensurePermissions answers).2.2) taps refs := by
  have hasked : Accounts (calls ++ (checkAccessibility answers).2) taps refs :=
    askTrusted_spec h _ _
  have hchecked : Accounts (calls ++ (check answers).2) taps refs := by
    have hpreflight := hasked.quiet
      (c := .CGPreflightListenEventAccess answers.listens) rfl rfl
    rw [List.append_assoc] at hpreflight
    unfold check
    dsimp only
    split_ifs <;> exact hpreflight
  have hprompt :
      Accounts (calls ++ ((check answers).2 ++ promptAccessibility answers)) taps refs := by
    rw [← List.append_assoc]
    exact askTrusted_spec hchecked _ _
  have hstatus : (check answers).1 =
      if answers.trusted then if answers.listens then .Granted else .InputMonitoringDenied
      else if answers.listens then .AccessibilityDenied else .BothDenied := by
    unfold check checkAccessibility checkInputMonitoring
    cases answers.trusted <;> cases answers.listens <;> rfl
  -- What is asked for depends on both answers, but no request leaves a reference behind.
  unfold ensurePermissions
  generalize check answers = checked at *
  obtain ⟨status, asked⟩ := checked
  obtain rfl := hstatus
  cases answers.trusted with
  | true =>
    cases answers.listens with
    | true => exact ⟨rfl, hchecked⟩
    | false => exact ⟨rfl, request_spec hchecked⟩
  | false =>
    cases answers.listens with
    | true => exact ⟨rfl, hprompt⟩
    | false => exact ⟨rfl, request_spec hprompt⟩

end A11yPermissionGuard

/-! ### One tap -/

namespace StartAnswers

/-- Both permissions are given. -/
def permitted (answers : StartAnswers) : Bool :=
  answers.permissions.trusted && answers.permissions.listens

/-- A tap and its source are created. -/
def installs (answers : StartAnswers) : Bool := answers.tap.isSome && answers.source.isSome

end StartAnswers

namespace TapResources

/-- The event taps that were installed and not taken out, with their sources. -/
def taps (t : TapResources) : List (Nat × Nat) := t.overwritten ++ t.installed

end TapResources

/-- All that is held are the references of the event taps; and there are pointers to one as long as
the tap is active. -/
structure ResourceInv (t : TapResources) : Prop where
  accounts : Accounts t.calls t.taps 0
  paired : t.eventTap.isSome = t.runLoopSource.isSome
  active : t.control.state = .Active → t.eventTap.isSome = true

namespace TapResources

variable {t : TapResources}

/-- `installEventTap` installs one more tap, or leaves nothing. -/
theorem installEventTap_spec (h : Accounts t.calls t.taps 0) (answers : StartAnswers) :
    (t.installEventTap answers).1 = answers.installs ∧
      (t.installEventTap answers).2.control = t.control ∧
      Accounts (t.installEventTap answers).2.calls (t.installEventTap answers).2.taps 0 ∧
      (answers.installs = true →
        (t.installEventTap answers).2.eventTap.isSome = true ∧
        (t.installEventTap answers).2.runLoopSource.isSome = true ∧
        (t.installEventTap answers).2.taps.length = t.taps.length + 1) ∧
      (answers.installs = false →
        (t.installEventTap answers).2 =
          { t with calls := (t.installEventTap answers).2.calls }) := by
  obtain ⟨permissions, tap, source, threadStarts⟩ := answers
  unfold installEventTap StartAnswers.installs
  -- A tap that is not created leaves nothing to release.
  cases tap with
  | none =>
    have hcreate := h.quiet (c := .CGEventTapCreate none) rfl rfl
    exact ⟨rfl, rfl, hcreate, nofun, fun _ => rfl⟩
  | some tap =>
    have hcreate := h.create (c := .CGEventTapCreate (some tap)) rfl rfl
    cases source with
    | none =>
      -- Without a source the tap is released again.
      have hsource := hcreate.use (c := .CFMachPortCreateRunLoopSource tap none)
        (Multiset.mem_cons_self tap 0) rfl rfl
      exact ⟨rfl, rfl, hsource.release, nofun, fun _ => rfl⟩
    | some src =>
      -- Tap and source are kept, and their references go with the tap.
      have hsource := hcreate.createSource src (Multiset.mem_cons_self tap 0)
      refine ⟨rfl, rfl, hsource.addSource, fun _ => ⟨rfl, rfl, ?_⟩, nofun⟩
      exact List.length_append

/-- The state is not changed. -/
theorem control_uninstallEventTap (t : TapResources) :
    t.uninstallEventTap.control = t.control := by
  unfold uninstallEventTap
  -- The two pointers are looked at one after the other.
  cases t.runLoopSource <;> dsimp only <;> cases h : t.eventTap <;> simp [TapResources.call, h]

/-- `uninstallEventTap` takes out the tap that there are pointers to. -/
theorem uninstallEventTap_spec (h : Accounts t.calls t.taps 0)
    (hpaired : t.eventTap.isSome = t.runLoopSource.isSome) :
    Accounts t.uninstallEventTap.calls t.uninstallEventTap.taps 0 ∧
      t.uninstallEventTap.eventTap = none ∧ t.uninstallEventTap.runLoopSource = none ∧
      t.taps.length = t.uninstallEventTap.taps.length + if t.eventTap.isSome then 1 else 0 := by
  obtain ⟨control, permissionGuard, eventTap, runLoopSource, calls, overwritten⟩ := t
  cases eventTap with
  | none =>
    cases runLoopSource with
    | none => exact ⟨h, rfl, rfl, rfl⟩
    | some src => cases hpaired
  | some tap =>
    cases runLoopSource with
    | none => cases hpaired
    | some src =>
      have hleft := Accounts.removeSource h
      rw [← List.append_nil overwritten] at hleft
      -- The tap that there are pointers to is the last that was installed.
      refine ⟨hleft, rfl, rfl, ?_⟩
      show (overwritten ++ [(tap, src)]).length = (overwritten ++ []).length + 1
      rw [List.length_append, List.append_nil]
      rfl

/-- The permissions are asked for before anything is installed. -/
theorem ensured (h : Accounts t.calls t.taps 0) (answers : StartAnswers) :
    ∃ permissionGuard asked,
      t.permissionGuard.ensurePermissions answers.permissions =
        (answers.permitted, permissionGuard, asked) ∧ Accounts (t.calls ++ asked) t.taps 0 := by
  obtain ⟨hpermitted, hcalls⟩ :=
    A11yPermissionGuard.ensurePermissions_spec t.permissionGuard h answers.permissions
  exact ⟨_, _, Prod.ext hpermitted rfl, hcalls⟩

/-- One more event tap is installed than before. -/
structure Installed (t t' : TapResources) : Prop where
  eventTap : t'.eventTap.isSome = true
  runLoopSource : t'.runLoopSource.isSome = true
  taps : t'.taps.length = t.taps.length + 1
  accounts : Accounts t'.calls t'.taps 0

/-- What `start` returns, or that it throws, and what it leaves. -/
inductive Outcome (t : TapResources) (answers : StartAnswers) :
    Option CaptureHandle × TapResources → Prop where
  | busy (hstate : t.control.state ≠ .Inactive) : Outcome t answers (some TapControl.noHandle, t)
  | refused (permissionGuard : A11yPermissionGuard) (calls : List SystemCall)
      (hstate : t.control.state = .Inactive)
      (hrefused : answers.permitted = false ∨ answers.installs = false)
      (haccounts : Accounts calls t.taps 0) :
      Outcome t answers (some TapControl.noHandle,
        { t with control := t.control.enterDegradedState, permissionGuard, calls })
  | throws (t' : TapResources) (hstate : t.control.state = .Inactive)
      (hinstalled : Installed t t') (hcontrol : t'.control = t.control) :
      Outcome t answers (none, t')
  | starts (t' : TapResources) (hstate : t.control.state = .Inactive)
      (hpermitted : answers.permitted = true) (hinstalls : answers.installs = true)
      (hinstalled : Installed t t') (hcontrol : t'.control = t.control.activate.2) :
      Outcome t answers (some t.control.activate.1, t')

/-- `start` has one of these outcomes. -/
theorem start_outcome (h : ResourceInv t) (answers : StartAnswers) :
    Outcome t answers (t.start answers) := by
  unfold start
  -- A capture that is not inactive is refused before anything is asked for.
  by_cases hstate : t.control.state ≠ .Inactive
  · rw [if_pos hstate]
    exact .busy hstate
  rw [if_neg hstate]
  have hinactive : t.control.state = .Inactive := not_not.mp hstate
  obtain ⟨permissionGuard, asked, hensured, hasked⟩ := ensured h.accounts answers
  rw [hensured]
  dsimp only
  cases hpermitted : answers.permitted with
  | false => exact .refused permissionGuard _ hinactive (.inl hpermitted) hasked
  | true =>
    obtain ⟨hanswer, hcontrol, haccounts, hinstalled, hnot⟩ :=
      installEventTap_spec (t := { t with permissionGuard, calls := t.calls ++ asked }) hasked
        answers
    generalize installEventTap { t with permissionGuard, calls := t.calls ++ asked } answers = r
      at *
    obtain ⟨installs, t'⟩ := r
    obtain rfl : installs = answers.installs := hanswer
    dsimp only at *
    cases hinstalls : answers.installs with
    -- What `installEventTap` acquired it has released again.
    | false =>
      rw [hnot hinstalls] at haccounts ⊢
      exact .refused permissionGuard t'.calls hinactive (.inr hinstalls) haccounts
    | true =>
      obtain ⟨htap, hsource, hlength⟩ := hinstalled hinstalls
      have hone : Installed t t' := ⟨htap, hsource, hlength, haccounts⟩
      cases answers.threadStarts with
      -- The tap is installed when the thread throws, and nobody takes it back.
      | false => exact .throws t' hinactive hone hcontrol
      | true =>
        have hactivate : t'.control.activate = t.control.activate := by rw [hcontrol]
        show Outcome t answers (some t'.control.activate.1,
          { t' with control := t'.control.activate.2 })
        rw [hactivate]
        exact .starts _ hinactive hpermitted hinstalls ⟨htap, hsource, hlength, haccounts⟩ rfl

/-- A handle that is released changes no state. -/
theorem state_releaseHandle (control : TapControl) (handle : CaptureHandle) :
    (control.releaseHandle handle).state = control.state := by
  unfold TapControl.releaseHandle
  split <;> rfl

/-- What `stop` does with the tap that there are pointers to. -/
theorem stop_cases (h : ResourceInv t) (handle : CaptureHandle) :
    t.control.state = .Inactive ∧
        t.stop handle = { t with control := t.control.releaseHandle handle } ∨
      t.control.state ≠ .Inactive ∧ (t.stop handle).control.state = .Inactive ∧
        (t.stop handle).eventTap = none ∧ (t.stop handle).runLoopSource = none ∧
        Accounts (t.stop handle).calls (t.stop handle).taps 0 ∧
        t.taps.length = (t.stop handle).taps.length + if t.eventTap.isSome then 1 else 0 := by
  unfold stop
  dsimp only
  rw [state_releaseHandle]
  by_cases hstate : t.control.state = .Inactive
  · rw [if_pos hstate]
    exact .inl ⟨hstate, rfl⟩
  · rw [if_neg hstate]
    obtain ⟨haccounts, htap, hsource, hlength⟩ := uninstallEventTap_spec
      (t := { t with control := t.control.releaseHandle handle }) h.accounts h.paired
    exact .inr ⟨hstate, rfl, htap, hsource, haccounts, hlength⟩

/-- `stop` leaves the tap inactive. -/
theorem state_stop (h : ResourceInv t) (handle : CaptureHandle) :
    (t.stop handle).control.state = .Inactive := by
  rcases stop_cases h handle with ⟨hstate, hstop⟩ | ⟨-, hstopped, -⟩
  · rw [hstop]
    exact (state_releaseHandle t.control handle).trans hstate
  · exact hstopped

/-- Whether `start` throws. -/
def throws (t : TapResources) : TapResourceCall → Nat
  | .start answers => if (t.start answers).1 = none then 1 else 0
  | .stop _ => 0

/-- Whether `stop` takes out a tap that a `start` has left that threw. -/
def recovers (t : TapResources) : TapResourceCall → Nat
  | .start _ => 0
  | .stop _ => if t.control.state = .Degraded ∧ t.eventTap.isSome then 1 else 0

/-- The event tap of a capture that goes on. -/
def capturing (t : TapResources) : Nat := if t.control.state = .Active then 1 else 0

/-- After `stop` no capture goes on. -/
theorem capturing_stop (h : ResourceInv t) (handle : CaptureHandle) :
    (t.stop handle).capturing = 0 :=
  if_neg (state_stop h handle ▸ nofun)

end TapResources

/-! ### All calls -/

open TapResources

/-- The invariant holds of a tap that was just made. -/
theorem resourceInv_init : ResourceInv TapResources.init where
  accounts := accounts_nil
  paired := rfl
  active := nofun

/-- The step lemma, with the balance of a step. -/
theorem resourceInv_step (t : TapResources) (c : TapResourceCall) (h : ResourceInv t) :
    ResourceInv (tapResourcesMachine.step t c) ∧
      (tapResourcesMachine.step t c).taps.length + t.recovers c + t.capturing =
        t.taps.length + t.throws c + (tapResourcesMachine.step t c).capturing := by
  cases c with
  | start answers =>
    show ResourceInv (t.start answers).2 ∧ (t.start answers).2.taps.length + 0 + t.capturing =
      t.taps.length + (if (t.start answers).1 = none then 1 else 0) + (t.start answers).2.capturing
    have houtcome := start_outcome h answers
    generalize t.start answers = r at houtcome
    cases houtcome with
    | busy hstate => exact ⟨h, rfl⟩
    -- Nothing is installed, but a tap that an earlier call has left may still be there.
    | refused permissionGuard calls hstate hrefused haccounts =>
      refine ⟨⟨haccounts, h.paired, nofun⟩, ?_⟩
      show t.taps.length + 0 + t.capturing = t.taps.length + 0 + 0
      rw [capturing, hstate, if_neg nofun]
    -- The tap is installed, and the state is still `Inactive`.
    | throws t' hstate hinstalled hcontrol =>
      refine ⟨⟨hinstalled.accounts, hinstalled.eventTap.trans hinstalled.runLoopSource.symm,
        fun _ => hinstalled.eventTap⟩, ?_⟩
      dsimp only
      rw [hinstalled.taps, capturing, capturing, hcontrol, if_pos rfl]
    | starts t' hstate hpermitted hinstalls hinstalled hcontrol =>
      refine ⟨⟨hinstalled.accounts, hinstalled.eventTap.trans hinstalled.runLoopSource.symm,
        fun _ => hinstalled.eventTap⟩, ?_⟩
      have hactive : t'.control.state = .Active := congrArg TapControl.state hcontrol
      dsimp only
      rw [hinstalled.taps, capturing, capturing, hstate, hactive, if_neg nofun, if_neg nofun,
        if_pos rfl]
  | stop handle =>
    show ResourceInv (t.stop handle) ∧ (t.stop handle).taps.length +
        (if t.control.state = .Degraded ∧ t.eventTap.isSome then 1 else 0) + t.capturing =
      t.taps.length + 0 + (t.stop handle).capturing
    have hnone : (t.stop handle).capturing = 0 := capturing_stop h handle
    have hactive : (t.stop handle).control.state ≠ .Active := state_stop h handle ▸ nofun
    rcases stop_cases h handle with
      ⟨hstate, hstop⟩ | ⟨hstate, -, htap, hsource, haccounts, hlength⟩
    · -- Nothing is taken out in the state `Inactive`, also when there are pointers to a tap.
      rw [hnone, capturing, hstate, if_neg (fun hc => nomatch hc.1), if_neg nofun]
      rw [hstop] at hactive ⊢
      exact ⟨⟨h.accounts, h.paired, fun hc => absurd hc hactive⟩, rfl⟩
    · refine ⟨⟨haccounts, by rw [htap, hsource], fun hc => absurd hc hactive⟩, ?_⟩
      -- A tap goes out if there are pointers to one: always in the state `Active`, and in the
      -- state `Degraded` if a `start` that threw has left one.
      rw [hnone, hlength, capturing]
      cases hcontrol : t.control.state with
      | Inactive => exact absurd hcontrol hstate
      | Active => simp [h.active hcontrol]
      | Degraded => cases t.eventTap <;> simp

/-! ### The state of the tap -/

/-- `start` does to the state what the machine of the states does, unless it throws. -/
theorem control_start {t : TapResources} (h : ResourceInv t) (answers : StartAnswers) :
    (t.start answers).2.control = t.control ∨
      (t.start answers).2.control =
        tapControlMachine.step t.control (.start answers.permitted answers.installs) := by
  have houtcome := start_outcome h answers
  generalize t.start answers = r at houtcome
  show _ ∨ r.2.control = (t.control.start answers.permitted answers.installs).2
  unfold TapControl.start
  cases houtcome with
  | busy hstate => exact .inl rfl
  | refused permissionGuard calls hstate hrefused haccounts =>
    rw [if_neg (not_not.mpr hstate)]
    refine .inr ?_
    rcases hrefused with hrefused | hrefused
    · rw [hrefused]
      rfl
    · rw [hrefused]
      cases answers.permitted <;> rfl
  -- A `start` that throws has not come to the store of the state.
  | throws t' hstate hinstalled hcontrol => exact .inl hcontrol
  | starts t' hstate hpermitted hinstalls hinstalled hcontrol =>
    rw [if_neg (not_not.mpr hstate), hpermitted, hinstalls]
    exact .inr hcontrol

/-- `stop` does to the state what the machine of the states does. -/
theorem control_stop (t : TapResources) (handle : CaptureHandle) :
    (t.stop handle).control = tapControlMachine.step t.control (.stop handle) := by
  show (t.stop handle).control = t.control.stop handle
  unfold stop TapControl.stop
  dsimp only
  split
  · rfl
  · show (uninstallEventTap _).control.deactivate = _
    rw [control_uninstallEventTap]

/-- The invariant holds after any calls. -/
theorem resourceInv_run (calls : List TapResourceCall) :
    ResourceInv (tapResourcesMachine.run calls) :=
  Machine.Invariant.of_step resourceInv_init (fun t c h => (resourceInv_step t c h).1) calls

/-- But for a `start` that throws, the calls do to the state of the tap and to its handles what
those of `tapControlMachine` do. -/
theorem control_run (calls : List TapResourceCall) :
    ∃ controlCalls,
      (tapResourcesMachine.run calls).control = tapControlMachine.run controlCalls := by
  refine Machine.run_induction (P := fun _ (t : TapResources) => ∃ controlCalls,
    t.control = tapControlMachine.run controlCalls) ⟨[], rfl⟩ ?_ calls
  rintro calls c ⟨controlCalls, hcontrol⟩
  have hstep : ∀ controlCall,
      tapControlMachine.step (tapResourcesMachine.run calls).control controlCall =
        tapControlMachine.run (controlCalls ++ [controlCall]) := by
    intro controlCall
    rw [hcontrol, Machine.run_append_singleton]
  cases c with
  | start answers =>
    rcases control_start (resourceInv_run calls) answers with hsame | hstart
    · exact ⟨controlCalls, hsame.trans hcontrol⟩
    · exact ⟨_, hstart.trans (hstep _)⟩
  | stop handle => exact ⟨_, (control_stop _ handle).trans (hstep _)⟩

/-! ### The account -/

/-- The balance of a run, added up over its steps. -/
theorem taps_balance (calls : List TapResourceCall) :
    (tapResourcesMachine.run calls).taps.length + tapResourcesMachine.total recovers .init calls =
      tapResourcesMachine.total throws .init calls +
        (tapResourcesMachine.run calls).capturing := by
  have hbalance : (tapResourcesMachine.run calls).taps.length +
      tapResourcesMachine.total recovers .init calls + 0 =
        0 + tapResourcesMachine.total throws .init calls +
          (tapResourcesMachine.run calls).capturing :=
    Machine.total_balance (P := ResourceInv) (C := fun _ _ => True) (x := fun t => t.taps.length)
      (fun t c h _ => (resourceInv_step t c h).1) (fun t c h _ => (resourceInv_step t c h).2)
      resourceInv_init (Machine.meets_of_forall fun _ _ _ => trivial)
  rw [Nat.add_zero, Nat.zero_add] at hbalance
  exact hbalance

/-- **The account of the event taps.** After any calls, whatever the system returns: no function was
given a pointer, and no object released, to which the tap did not own a reference; the references
that it owns are those to the event taps that were not taken out and to their sources, and the
sources that were added to the run loop and not removed are these; and there are as many of these
taps as calls of `start` that threw, but for those that a later `stop` has taken out, and the tap of
a capture that goes on. The destructor, a `stop` too, takes that one out and leaves the others. -/
theorem taps_accounted (calls : List TapResourceCall) :
    let t := tapResourcesMachine.run calls
    Owned (t.calls.flatMap SystemCall.references) (tapRefs t.taps) ∧
      Owned (t.calls.flatMap SystemCall.sources) (t.taps.map Prod.snd : Multiset Nat) ∧
      t.taps.length + tapResourcesMachine.total recovers .init calls =
        tapResourcesMachine.total throws .init calls + t.capturing ∧
      t.destroy.taps.length + t.recovers (.stop TapControl.noHandle) +
          tapResourcesMachine.total recovers .init calls =
        tapResourcesMachine.total throws .init calls := by
  intro t
  have hinv : ResourceInv t := resourceInv_run calls
  have hbalance := taps_balance calls
  have howned := hinv.accounts.held
  rw [zero_add] at howned
  -- The destructor stops the tap that the state knows of, and no other.
  refine ⟨howned, hinv.accounts.runLoop, hbalance, ?_⟩
  have hstep : t.destroy.taps.length + t.recovers (.stop TapControl.noHandle) + t.capturing =
      t.taps.length + 0 + t.destroy.capturing :=
    (resourceInv_step t (.stop TapControl.noHandle) hinv).2
  have hnone : t.destroy.capturing = 0 := capturing_stop hinv _
  have htaps : t.taps.length + tapResourcesMachine.total recovers .init calls =
      tapResourcesMachine.total throws .init calls + t.capturing := hbalance
  omega

end CrossFlow
