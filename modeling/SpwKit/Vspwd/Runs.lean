import SpwKit.Vspwd.Legality

/-!
# Runs of the daemon

An action hears a record of a client, or it is a row of `Event`s, each with what
is noted of it (`step_cases`). A property of the histories is one that hearing a
record and every event keep.
-/

open Vspd BigEndian

namespace Vspwd

variable {P : Daemon → Prop} {d d' : Daemon} {i : ClientIndex} {s s' : Server}

/-- **One thing that happens besides hearing a record**, with what is noted of it. -/
inductive Event (d : Daemon) : Daemon → Prop
  | accepted (i : ClientIndex) (fd : Nat) (hfree : (d.server.clients i).fd = none) :
      Event d (d.welcome i (d.server.updateClient i (fun _ => Client.zeroed (some fd))))
  | closed (i : ClientIndex) : Event d { d with server := closeClient d.server i }
  | told (i : ClientIndex) (frame : Bytes) (s' : Server)
      (hfd : (d.server.clients i).fd.isSome = true) (h : Writes d.server i frame s') :
      Event d (d.tell i [frame] s')
  | bridge (call : Option BridgeCall) (s' : Server) (h : BridgeMove d.server call s') :
      Event d { d with server := s' }

/-- A row of events. -/
def Events : Daemon → Daemon → Prop := Relation.ReflTransGen Event

/-- Writing a record leaves a client where it is. -/
theorem Writes.portId {frame : Bytes} (h : Writes s i frame s') (j : ClientIndex) :
    (s'.clients j).portId = (s.clients j).portId ∧ (s'.clients j).fd = (s.clients j).fd := by
  cases h with
  | response =>
    rw [Server.updateClient_clients]
    split_ifs with hj
    · rw [hj]
      exact ⟨rfl, rfl⟩
    · exact ⟨rfl, rfl⟩
  | state | fragment => exact ⟨rfl, rfl⟩
  | packet p slot =>
    unfold popPacket
    split_ifs <;> simp
  | timeCode p =>
    unfold popTimeCode
    split_ifs <;> simp
  | snapshot p =>
    rw [Server.updateClient_clients]
    split_ifs with hj
    · rw [hj]
      exact ⟨rfl, rfl⟩
    · exact ⟨rfl, rfl⟩

theorem WritesAll.events {frames : List Bytes} (h : WritesAll i s frames s') :
    ∀ d : Daemon, d.server = s →
      (s.clients i).fd.isSome = true → Events d (d.tell i frames s') := by
  induction h with
  | nil s =>
    rintro d rfl _
    rw [d.tell_nil i]
    exact .refl
  | @cons s s' s'' frame frames hfirst _ ih =>
    rintro d rfl hfd
    have hrest := ih (d.tell i [frame] s') rfl (by rw [(hfirst.portId i).2]; exact hfd)
    rw [d.tell_tell i [frame] frames s' s'' (hfirst.portId i).1] at hrest
    exact .head (.told i frame s' hfd hfirst) hrest

/-- **An action hears a record, or is a row of events.** -/
theorem step_cases (d : Daemon) (a : Action) :
    (∃ i frame s', a = .receive i (.record frame) ∧ Heard d i frame s'
        ∧ d.step a = d.hear i frame s')
      ∨ Events d (d.step a) := by
  have hturn := step_turn d a
  generalize d.step a = d' at hturn ⊢
  cases hturn with
  | nothing => exact .inr .refl
  | accepted i fd hfree => exact .inr (.single (.accepted i fd hfree))
  | closed _ i => exact .inr (.single (.closed i))
  | heard i frame s' h => exact .inl ⟨i, frame, s', rfl, h, rfl⟩
  | told i send frames s' hfd h => exact .inr (h.events d rfl hfd)
  | failed i send frames s' hfd h => exact .inr ((h.events d rfl hfd).tail (.closed i))
  | bridge _ call s' h => exact .inr (.single (.bridge call s' h))

/-- What the modules before have shown of every state. -/
structure WellKept (s : Server) : Prop where
  exclusive : Exclusive s
  coherent : Coherent s
  sound : Sound s

theorem WellKept.move (hm : Move s s') (h : WellKept s) : WellKept s' :=
  ⟨.move hm h.exclusive, .move hm h.exclusive h.coherent, .move hm h.sound⟩

/-- What an event does to the server is a move. -/
theorem Event.move (h : Event d d') : Move d.server d'.server := by
  cases h with
  | accepted i fd hfree => exact .accept i fd hfree
  | closed i => exact .close i
  | told i frame s' hfd h | bridge call s' h => exact h.move

theorem Events.keeps (hevent : ∀ {d d' : Daemon}, Event d d' → WellKept d.server → P d → P d')
    (h : Events d d') (hd : WellKept d.server ∧ P d) : WellKept d'.server ∧ P d' := by
  induction h with
  | refl => exact hd
  | tail _ hlast ih => exact ⟨ih.1.move hlast.move, hevent hlast ih.1 ih.2⟩

/-- **The runs of the daemon whose actions are all allowed.** -/
inductive Daemon.Run (allowed : Server → Action → Prop) : Daemon → Prop
  | start {s : Server} (h : Started s) : Run allowed (Daemon.initial s)
  | step {d : Daemon} (h : Run allowed d) (a : Action) (ha : allowed d.server a) :
      Run allowed (d.step a)

/-- **The runs of the daemon.** -/
def Daemon.Reachable : Daemon → Prop := Daemon.Run (fun _ _ => True)

/-- **What holds at the start and is kept by hearing a record and by every event
holds always.** -/
theorem Daemon.Run.keeps {allowed : Server → Action → Prop}
    (hstart : ∀ {s : Server}, Started s → P (Daemon.initial s))
    (hheard : ∀ {d : Daemon} {i : ClientIndex} {frame : Bytes} {s' : Server},
      allowed d.server (.receive i (.record frame)) → Heard d i frame s' → WellKept d.server →
      P d → P (d.hear i frame s'))
    (hevent : ∀ {d d' : Daemon}, Event d d' → WellKept d.server → P d → P d') (h : d.Run allowed) :
    WellKept d.server ∧ P d := by
  induction h with
  | start h => exact ⟨⟨.started h, .started h, .started h⟩, hstart h⟩
  | @step d _ a ha ih =>
    obtain ⟨i, frame, s', rfl, hd, heq⟩ | hrow := step_cases d a
    · rw [heq]
      refine ⟨?_, hheard ha hd ih.1 ih.2⟩
      rw [hear_server]
      exact (hd.handled.moves hd.connected).keeps WellKept.move ih.1
    · exact hrow.keeps hevent ih

/-- The state after a list of actions. -/
def Daemon.run (d : Daemon) (actions : List Action) : Daemon := actions.foldl Daemon.step d

theorem Daemon.Reachable.run (h : d.Reachable) (actions : List Action) :
    (d.run actions).Reachable := by
  induction actions generalizing d with
  | nil => exact h
  | cons a rest ih => exact ih (.step h a trivial)

end Vspwd
