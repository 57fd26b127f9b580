/-
# The mount point does not show

Requests that ask the same are served alike wherever the same endpoint stands
(`Connector.serve_congr`), so a run of requests below a place has the outcomes of a run at the root
(`history_rerouted`): the paths of the endpoints correspond, and all other paths lead nowhere
(`Corresponds`).

The main statement, `mount_point_does_not_show`, is about the application that settings make.  Slashes
at the end of the mount path do not matter.
-/
import Mathlib.Data.List.Forall2
import Switchboard.Proofs.Connector.Fate
import Switchboard.Proofs.Http.Place
import Switchboard.Server.App

namespace Switchboard

open Http

/-- Whether two requests ask the same, wherever they go. -/
structure Http.Request.Alike (r r' : Request) : Prop where
  method : r'.method = r.method
  headers : r'.headers = r.headers
  body : r'.body = r.body

/-- Whether a path is none of the two below a place. -/
structure LeadsNowhere (place path : List Char) : Prop where
  ne_healthPath : path ≠ healthPath place
  ne_webhookPath : path ≠ webhookPath place

/-- Whether a path below a place leads where another leads at the root. -/
inductive Corresponds (place : List Char) : List Char → List Char → Prop where
  | health : Corresponds place (healthPath place) "/".toList
  | webhook : Corresponds place (webhookPath place) "/webhook".toList
  | nowhere {path path' : List Char} (h : LeadsNowhere place path) (h' : LeadsNowhere [] path') :
      Corresponds place path path'

/-- Whether one visit is at the root what another is below a place. -/
structure Visit.Rerouted (place : List Char) (v v' : Visit) : Prop where
  now : v'.now = v.now
  engine : v'.engine = v.engine
  alike : v.request.Alike v'.request
  path : Corresponds place v.request.path v'.request.path

section

variable {place : List Char}

theorem LeadsNowhere.endpoint?_eq {path : List Char} (h : LeadsNowhere place path) :
    (Mount.ofPlace place).endpoint? path = none := by
  rw [Mount.endpoint?_ofPlace, if_neg h.ne_healthPath, if_neg h.ne_webhookPath]

theorem Corresponds.endpoint?_eq {path path' : List Char} (h : Corresponds place path path') :
    Mount.root.endpoint? path' = (Mount.ofPlace place).endpoint? path := by
  cases h with
  | health =>
      rw [Mount.endpoint?_ofPlace, if_pos rfl]
      rfl
  | webhook =>
      rw [Mount.endpoint?_ofPlace, if_neg (healthPath_ne_webhookPath place).symm, if_pos rfl]
      rfl
  | nowhere h h' => rw [h.endpoint?_eq, ← h'.endpoint?_eq]; rfl

/-- What a request comes to depends on what stands at its path, and otherwise not on the path. -/
theorem Connector.serve_congr (c : Connector) (engine : Engine) (here : Circumstances)
    {mount mount' : Mount} {r r' : Request} (h : r.Alike r')
    (hpath : mount'.endpoint? r'.path = mount.endpoint? r.path) :
    c.serve engine mount' here r' = c.serve engine mount here r := by
  have hfinished : finished r' = finished r := by
    funext response
    rw [finished, finished, h.method]
  simp only [serve, hpath, hfinished, answer, h.method, h.headers, h.body]

/-- A status and nothing else is sent alike to requests of every method. -/
theorem Connector.finished_ofStatus (r : Request) (status : Nat) :
    finished r (.ofStatus status) = { status, headers := [("content-length", "0")] } := by
  rw [finished, withLength_ofStatus]
  exact ite_self _

theorem Connector.serve_nowhere {c : Connector} {engine : Engine} {here : Circumstances}
    {r : Request} (h : LeadsNowhere place r.path) :
    c.serve engine (.ofPlace place) here r
      = here.answered { status := 404, headers := [("content-length", "0")] } [] := by
  simp only [serve, h.endpoint?_eq, Circumstances.answered, Option.map_some, finished_ofStatus]

variable (c : Connector) (service : Outbound.Service)

theorem receiveVisit_rerouted {v v' : Visit} (h : v.Rerouted place v') (before : Nat) :
    (c.receiveVisit .root service before v').outcome
      = (c.receiveVisit (.ofPlace place) service before v).outcome := by
  rw [Connector.receiveVisit, Connector.receiveVisit, h.now, h.engine]
  exact c.serve_congr v.engine _ h.alike h.path.endpoint?_eq

/-- By induction on the run: the outcomes agree so far, and so do the attempts that are counted on. -/
theorem history_rerouted {visits visits' : List Visit}
    (h : List.Forall₂ (Visit.Rerouted place) visits visits') (before : Nat) :
    (c.history .root service before visits').map Exchange.outcome
      = (c.history (.ofPlace place) service before visits).map Exchange.outcome := by
  induction h generalizing before with
  | nil => rfl
  | cons hv _ ih =>
      have hfirst := receiveVisit_rerouted c service hv before
      simp only [Connector.history, List.map_cons, ih, hfirst]

end

namespace Server

/-- An application whose settings name a place serves every request, whatever engine it meets, as the
connector serves the same request at the root: one at the place itself like one at `/`, and one a step
below like one at `/webhook`.  All other paths are unknown to it.  So the outcomes of a whole run are
those of a run at the root; and other settings that name the place, with more slashes at its end or
fewer, make the same application. -/
theorem mount_point_does_not_show {s : Settings} {place : List Char}
    (h : MountsAt s.server.mountPath place) (c : Connector) :
    ∃ app, mount? s c = some app ∧ app.connector = c ∧
      (∀ service before visits, ∀ e ∈ app.connector.history app.mount service before visits,
        (e.visit.request.path = healthPath place → ∀ r, e.visit.request.Alike r →
          r.path = "/".toList →
          e.outcome = c.serve e.visit.engine .root ⟨e.visit.now, service, e.before⟩ r) ∧
        (e.visit.request.path = webhookPath place → ∀ r, e.visit.request.Alike r →
          r.path = "/webhook".toList →
          e.outcome = c.serve e.visit.engine .root ⟨e.visit.now, service, e.before⟩ r) ∧
        (LeadsNowhere place e.visit.request.path → e.Idle ∧
          e.outcome.response = some { status := 404, headers := [("content-length", "0")] })) ∧
      (∀ service before visits visits', List.Forall₂ (Visit.Rerouted place) visits visits' →
        (app.connector.history app.mount service before visits).map Exchange.outcome
          = (c.history .root service before visits').map Exchange.outcome) ∧
      ∀ s' : Settings, MountsAt s'.server.mountPath place → mount? s' c = some app := by
  have hmount : ∀ s' : Settings, MountsAt s'.server.mountPath place →
      mount? s' c = some ⟨c, .ofPlace place⟩ := fun s' h' => by
    rw [mount?, Mount.ofPath?_of_mountsAt h', Option.map_some]
  refine ⟨⟨c, .ofPlace place⟩, hmount s h, rfl, ?_, ?_, hmount⟩
  · intro service before visits e he
    have houtcome : e.outcome = c.serve e.visit.engine (.ofPlace place)
        ⟨e.visit.now, service, e.before⟩ e.visit.request :=
      congrArg Exchange.outcome (Connector.eq_receiveVisit_of_mem he)
    have hsame : ∀ r, e.visit.request.Alike r → Corresponds place e.visit.request.path r.path →
        e.outcome = c.serve e.visit.engine .root ⟨e.visit.now, service, e.before⟩ r :=
      fun r halike hpath => houtcome.trans (c.serve_congr _ _ halike hpath.endpoint?_eq).symm
    refine ⟨fun hpath r halike hr => hsame r halike ?_, fun hpath r halike hr => hsame r halike ?_,
      fun hnowhere => ?_⟩
    · rw [hpath, hr]
      exact .health
    · rw [hpath, hr]
      exact .webhook
    · have hanswered := houtcome.trans (Connector.serve_nowhere hnowhere)
      exact ⟨⟨congrArg Connector.Outcome.delivered hanswered,
        congrArg Connector.Outcome.posts hanswered,
        congrArg Connector.Outcome.attempts hanswered⟩,
        congrArg Connector.Outcome.response hanswered⟩
  · intro service before visits visits' hrerouted
    exact (history_rerouted c service hrerouted before).symm

/-- Settings with a token and a mount path. -/
def mountedAt (path : String) : Settings := ⟨⟨"0.0.0.0", 5005, path⟩, some { token := some "t" }⟩

/-- A visit that only looks whether something is there. -/
def probe (target : String) : Visit := ⟨1000, { method := "GET", target }, Engine.echo⟩

theorem mountsAt_nested {path : String} (n : Nat)
    (h : path.toList = "/a/b".toList ++ List.replicate n '/') : MountsAt path "/a/b".toList := by
  refine ⟨⟨["a".toList, "b".toList], rfl, fun s hs => ?_⟩, n, h⟩
  rcases List.mem_cons.mp hs with rfl | hs
  · exact ⟨by decide, by decide, by decide, by decide⟩
  · obtain rfl := List.mem_singleton.mp hs
    exact ⟨by decide, by decide, by decide, by decide⟩

/-- Below a place of two segments, probes are answered as at the root, and a slash behind the place
leads nowhere.  Slashes behind the mount path make no difference. -/
theorem probes_at_a_nested_place :
    let c : Connector := { token := "t", ignoredReasons := [] }
    ∃ app, mount? (mountedAt "/a/b//") c = some app ∧ mount? (mountedAt "/a/b") c = some app ∧
      (app.connector.history app.mount .faultless 0
        [probe "/a/b?now=1", probe "/a/b/webhook", probe "/a/b/"]).map Exchange.outcome
      = (c.history .root .faultless 0
        [probe "/", probe "/webhook", probe "/health"]).map Exchange.outcome := by
  intro c
  obtain ⟨app, happ, -, -, hrun, hslashes⟩ :=
    mount_point_does_not_show (s := mountedAt "/a/b//") (mountsAt_nested 2 rfl) c
  refine ⟨app, happ, hslashes (mountedAt "/a/b") (mountsAt_nested 0 rfl), ?_⟩
  have hhealth : (probe "/a/b?now=1").Rerouted "/a/b".toList (probe "/") :=
    ⟨rfl, rfl, ⟨rfl, rfl, rfl⟩, .health⟩
  have hwebhook : (probe "/a/b/webhook").Rerouted "/a/b".toList (probe "/webhook") :=
    ⟨rfl, rfl, ⟨rfl, rfl, rfl⟩, .webhook⟩
  have hnowhere : (probe "/a/b/").Rerouted "/a/b".toList (probe "/health") :=
    ⟨rfl, rfl, ⟨rfl, rfl, rfl⟩,
      .nowhere ⟨by decide, by decide⟩ ⟨by decide, by decide⟩⟩
  exact hrun _ _ _ _ (.cons hhealth (.cons hwebhook (.cons hnowhere .nil)))

end Server
end Switchboard
