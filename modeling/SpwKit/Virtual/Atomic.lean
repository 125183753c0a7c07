import SpwKit.Virtual.Effects

/-!
# The simulator with calls that happen at once

`Machine` is the simulator without calls under way: every port that is open rests,
and a call happens at once, with its effect on the link that is there. Every run of
the ports with their waits is a run of this machine (`Reachable.machine`): a call
is seen when it returns, and up to then nothing has happened. So what holds of the
machine holds of the code, for every interleaving of calls that wait.
-/

open Interactive Core

namespace Simulator

variable {fuel : Nat}

/-! ## Where a port is -/

variable {w : World}

theorem SamePlace.setRx (b : SimulatorBackend) (acquired : Bool) (buffer : Buffer Storage) :
    SamePlace b (b.setRx acquired buffer) := ⟨rfl, rfl, rfl⟩

/-- A call does not move its port. -/
theorem Effect.samePlace {o o' : Opened Context} {call : Call} {reply : Reply}
    (h : Effect o call reply o') : SamePlace o.context.backend o'.context.backend := by
  cases h with
  | setPacket | submitted | releasedTx => exact (SamePlace.refl _).store _ _
  | rxReturned | acquiredRx | releasedRx => exact SamePlace.setRx _ _ _
  | _ => exact ⟨rfl, rfl, rfl⟩

/-! ## The machine -/

/-- **The registry and the ports that are open**, none of which is in a call. -/
structure Machine where
  registry : Registry
  ports : Nat → Option (Opened Context)

namespace Machine

/-- The machine at its start. -/
def initial : Machine := ⟨fun _ => VirtualLink.initial, fun _ => none⟩

/-- A port that was opened on an entry. -/
def openedPort (registry : Registry) (linkId : UInt64) (e : EndpointIndex) (i : LinkIndex) :
    Opened Context :=
  ⟨Port.opened, ⟨{ simulatorConstruct linkId e with link := some i }, registry i⟩⟩

/-- **What an action does**, with what it shows. -/
inductive Step (m : Machine) : Action → Outcome → Machine → Prop
  /-- Nothing is seen of the action. -/
  | silent (a : Action) : Step m a .nothing m
  | opened (port : Nat) (linkId : UInt64) (e : EndpointIndex) (i : LinkIndex)
      (registry : Registry) (hport : m.ports port = none)
      (hattach : attachBackend m.registry linkId e = (.ok i, registry)) :
      Step m (.open port linkId e) (.opened port .ok)
        ⟨registry, Function.update m.ports port (some (openedPort registry linkId e i))⟩
  | notOpened (port : Nat) (linkId : UInt64) (e : EndpointIndex) (result : Result)
      (registry : Registry) (hport : m.ports port = none)
      (hattach : attachBackend m.registry linkId e = (.error result, registry)) :
      Step m (.open port linkId e) (.opened port result) { m with registry := registry }
  | closed (port : Nat) (o : Opened Context) (i : LinkIndex) (hport : m.ports port = some o)
      (hlink : o.context.backend.link = some i) :
      Step m (.close port) .nothing
        ⟨detachBackend m.registry i o.context.backend.endpointIndex,
          Function.update m.ports port none⟩
  | returned (a : Action) (port : Nat) (call : Call) (reply : Reply) (o o' : Opened Context)
      (i : LinkIndex) (hport : m.ports port = some o) (hlink : o.context.backend.link = some i)
      (heffect : Effect (seeing o (m.registry i)) call reply o') :
      Step m a (.returned port call reply)
        ⟨Function.update m.registry i o'.context.link, Function.update m.ports port (some o')⟩
  | filled (port : Nat) (ref : BufferRef) (data : Storage) (o : Opened Context)
      (hport : m.ports port = some o)
      (howned : o.port.applicationOwned (o.context.backend.load ref) = true) :
      Step m (.fill port ref data) .nothing { m with
        ports := Function.update m.ports port (some { o with
          context := o.context.setBuffer ref
            { o.context.backend.load ref with data := data } }) }

theorem Step.of_eq {m m₁ m₂ : Machine} {a : Action} {outcome : Outcome}
    (h : m.Step a outcome m₁) (heq : m₂ = m₁) : m.Step a outcome m₂ := heq ▸ h

/-- The states of the machine. -/
inductive Reachable : Machine → Prop
  | initial : Reachable initial
  | step {m m' : Machine} {a : Action} {outcome : Outcome} (h : Reachable m)
      (hstep : Step m a outcome m') : Reachable m'

end Machine

/-! ## Refinement -/

/-- **What is known of a port.** A call that is under way keeps to its link and will have one
of its effects, whatever it finds. -/
inductive PortFits : PortActivity → Prop
  | idle (o : Opened Context) (i : LinkIndex) (hlink : o.context.backend.link = some i) :
      PortFits (.idle o)
  | busy (pending : Pending) (x : Running) (i : LinkIndex) (link : VirtualLink)
      (hlink : pending.before.context.backend.link = some i) (hx : ∀ s a, x ≠ .done s a)
      (hsat : x.Sat (portSetting pending.before.context.backend)
        (fun o' reply link _ => Effect (seeing pending.before link) pending.call reply o')
        link ()) :
      PortFits (.busy pending x)

/-- A call does not move its port while it waits. -/
theorem PortFits.samePlace {activity : PortActivity} (h : PortFits activity) :
    SamePlace activity.before.context.backend activity.state.context.backend := by
  cases h with
  | idle => exact .refl _
  | busy pending x i link hlink hx hsat =>
    cases x with
    | done s a => exact absurd rfl (hx s a)
    | ask s q k => exact hsat.1.2
    | hang s => exact hsat.2

namespace World

/-- What is known of every port. -/
def Fits (w : World) : Prop := ∀ port activity, w.ports port = some activity → PortFits activity

/-- **The machine that a world is as good as**: a call that has not returned has not
happened. -/
def machine (w : World) : Machine := ⟨w.registry, w.before⟩

variable {i : LinkIndex} {w : World}

theorem fits_initial : World.initial.Fits := fun _ _ h => nomatch h

theorem Fits.update (h : w.Fits) (registry : Registry) (port : Nat)
    {activity : Option PortActivity} (hport : ∀ x, activity = some x → PortFits x) :
    Fits ⟨registry, Function.update w.ports port activity⟩ := by
  intro p x hp
  by_cases hpp : p = port
  · subst hpp
    exact hport x (by simpa using hp)
  · exact h p x (by simpa [hpp] using hp)

theorem machine_update (w : World) (registry : Registry) (port : Nat)
    (activity : Option PortActivity) :
    machine ⟨registry, Function.update w.ports port activity⟩
      = ⟨registry, Function.update w.before port (activity.map PortActivity.before)⟩ := by
  refine congrArg (Machine.mk registry) (funext fun p => ?_)
  by_cases hpp : p = port
  · subst hpp
    simp [before]
  · simp [before, hpp]

/-- A link that was only looked at is given back as it was. -/
theorem unlock_eq_self {registry : Registry} {o : Opened Context}
    (hlink : o.context.backend.link = some i) (hkept : o.context.link = registry i) :
    registry.unlock o = registry := by
  simp [Registry.unlock, hlink, hkept]

/-- A call that waits has not happened. -/
theorem Fits.wait (h : w.Fits) (port : Nat) (pending : Pending) (x : Running)
    (hbefore : w.before port = some pending.before)
    (hlink : pending.before.context.backend.link = some i)
    (hplace : SamePlace pending.before.context.backend x.rest.context.backend)
    (hkept : x.rest.context.link = w.registry i) (hfits : PortFits (.busy pending x)) :
    machine ⟨w.registry.unlock x.rest, Function.update w.ports port (some (.busy pending x))⟩
        = w.machine
      ∧ Fits ⟨w.registry.unlock x.rest,
          Function.update w.ports port (some (.busy pending x))⟩ := by
  rw [unlock_eq_self (hplace.link.trans hlink) hkept]
  refine ⟨?_, h.update _ port fun y hy => Option.some.inj hy ▸ hfits⟩
  rw [machine_update]
  show Machine.mk _ (Function.update w.before port (some pending.before)) = _
  rw [← hbefore, Function.update_eq_self]
  rfl

/-- **A call runs on**: it returns and has its effect, or nothing has happened. -/
theorem Fits.settle (h : w.Fits) (a : Action) {port : Nat} (pending : Pending) {x : Running}
    (hbefore : w.before port = some pending.before)
    (hlink : pending.before.context.backend.link = some i)
    (hsat : x.Sat (portSetting pending.before.context.backend)
      (fun o' reply link _ => Effect (seeing pending.before link) pending.call reply o')
      (w.registry i) ()) :
    w.machine.Step a (w.settle port pending x).2 (w.settle port pending x).1.machine
      ∧ (w.settle port pending x).1.Fits := by
  cases x with
  | done o' reply =>
    have hplace : o'.context.backend.link = some i := hsat.samePlace.link.trans hlink
    have hunlock : w.registry.unlock o' = Function.update w.registry i o'.context.link := by
      simp [Registry.unlock, hplace]
    have hmachine : (w.settle port pending (.done o' reply)).1.machine
        = ⟨Function.update w.registry i o'.context.link,
          Function.update w.before port (some o')⟩ := by
      rw [← hunlock]
      exact machine_update w _ port (some (.idle o'))
    rw [hmachine]
    exact ⟨.returned a port pending.call reply pending.before o' i hbefore hlink hsat,
      h.update _ port fun y hy => Option.some.inj hy ▸ .idle o' i hplace⟩
  | ask s q k =>
    obtain ⟨hmachine, hfits⟩ := h.wait port pending (.ask s q k) hbefore hlink
      hsat.1.2 hsat.1.1 (.busy pending _ i _ hlink (fun _ _ => nofun) hsat)
    exact ⟨(Machine.Step.silent a).of_eq hmachine, hfits⟩
  | hang s =>
    obtain ⟨hmachine, hfits⟩ := h.wait port pending (.hang s) hbefore hlink hsat.2
      hsat.1 (.busy pending _ i _ hlink (fun _ _ => nofun) hsat)
    exact ⟨(Machine.Step.silent a).of_eq hmachine, hfits⟩

theorem before_of_ports {port : Nat} {activity : PortActivity} (h : w.ports port = some activity) :
    w.before port = some activity.before := by
  rw [before, h]
  rfl

/-- **Every action is one of the machine.** -/
theorem Fits.step (h : w.Fits) (fuel : Nat) (a : Action) :
    w.machine.Step a (w.step fuel a).2 (w.step fuel a).1.machine ∧ (w.step fuel a).1.Fits := by
  have hsilent : w.machine.Step a Outcome.nothing w.machine ∧ w.Fits := ⟨.silent a, h⟩
  cases a with
  | «open» port linkId e =>
    rw [World.step]
    cases hw : w.ports port with
    | some _ => exact hsilent
    | none =>
      have hport : w.machine.ports port = none := by simp [machine, before, hw]
      show w.machine.Step _ (w.openPort port linkId e).2 (w.openPort port linkId e).1.machine
        ∧ (w.openPort port linkId e).1.Fits
      unfold World.openPort
      rcases hattach : attachBackend w.registry linkId e with ⟨entry, registry⟩
      cases entry with
      | error result => exact ⟨.notOpened port linkId e result registry hport hattach, h⟩
      | ok i =>
        exact ⟨(Machine.Step.opened port linkId e i registry hport hattach).of_eq
          (machine_update w _ port _),
          h.update registry port fun y hy => Option.some.inj hy ▸ .idle _ i rfl⟩
  | close port =>
    rw [World.step]
    cases hw : w.ports port with
    | none => exact hsilent
    | some activity =>
      cases activity with
      | busy _ _ => exact hsilent
      | idle o =>
        cases h port _ hw with
        | idle _ i hlink =>
          dsimp only
          rw [hlink]
          exact ⟨(Machine.Step.closed port o i (before_of_ports hw) hlink).of_eq
            (machine_update w _ port _), h.update _ port fun y hy => nomatch hy⟩
  | call port call =>
    rw [World.step]
    cases hw : w.ports port with
    | none => exact hsilent
    | some activity =>
      cases activity with
      | busy _ _ => exact hsilent
      | idle o =>
        cases h port _ hw with
        | idle _ i hlink =>
          have hseen : w.registry.lock o = seeing o (w.registry i) := by
            simp [Registry.lock, Registry.seenBy, hlink, seeing, Context.at]
          dsimp only
          rw [hseen]
          exact h.settle _ ⟨call, o⟩ (before_of_ports hw) hlink
            (code_effect (seeing o (w.registry i)) call)
  | wake port wake =>
    rw [World.step]
    cases hw : w.ports port with
    | none => exact hsilent
    | some activity =>
      cases activity with
      | idle _ => exact hsilent
      | busy pending x =>
        cases h port _ hw with
        | busy _ _ i link hlink hx hsat =>
          cases x with
          | done _ _ | hang _ => exact hsilent
          | ask s q k =>
            have hseen : w.registry.seenBy s = w.registry i := by
              simp [Registry.seenBy, hsat.1.2.link, hlink]
            dsimp only
            rw [hseen]
            exact h.settle _ pending (before_of_ports hw) hlink (hsat.2 () hsat.1 _ _ rfl)
  | fill port ref data =>
    rw [World.step]
    cases hw : w.ports port with
    | none => exact hsilent
    | some activity =>
      cases activity with
      | busy _ _ => exact hsilent
      | idle o =>
        cases h port _ hw with
        | idle _ i hlink =>
          dsimp only
          split_ifs with howned
          · have hplace := (SamePlace.refl o.context.backend).store ref
              { o.context.backend.load ref with data := data }
            exact ⟨(Machine.Step.filled port ref data o (before_of_ports hw) howned).of_eq
              (machine_update w _ port _), h.update _ port fun y hy =>
                Option.some.inj hy ▸ .idle _ i (hplace.link.trans hlink)⟩
          · exact hsilent

end World

theorem Reachable.fits (h : Reachable fuel w) : w.Fits := by
  induction h with
  | initial => exact World.fits_initial
  | step _ a ih => exact (ih.step fuel a).2

/-- **Every run of the ports is a run of the machine.** -/
theorem Reachable.machine (h : Reachable fuel w) : w.machine.Reachable := by
  induction h with
  | initial => exact .initial
  | step hw a ih => exact ih.step (hw.fits.step fuel a).1

end Simulator
