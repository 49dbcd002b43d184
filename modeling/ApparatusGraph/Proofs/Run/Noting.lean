/-
# Callables that note their calls

A run lists its calls itself, next to where it makes them (`Session.calls`), so the list alone
does not show that the callables were asked.  The callables can tell: an operator is given
callables that each write their own name and what they are given into a journal beside the
store, and then do what they did before (`Operator.journaled`).

A run of such an operator is the run of the operator that it was made from, and where the
journal agreed with the list of calls before, it does so afterwards (`Operator.run_journaled`).
So each call that a run lists is one that the callable of that name was asked for, once and in
that order, and no callable is asked besides.

The two runs go turn by turn.  What is said of one call is `Call.await_journaled`; that a node
asks its callable and no other, and asks it once, is `Process.site_journaled` and
`Switch.site_journaled`.
-/

import ApparatusGraph.Proofs.Foundry.Matching
import ApparatusGraph.Proofs.Run.Medium
import ApparatusGraph.Proofs.Run.Moment

namespace ApparatusGraph

variable {σ μ α β : Type}

/-- What was called, and with what. -/
def Invocation.request (i : Invocation) : String × Record := (i.apparatus, i.input)

/-- The calls that were made, in order. -/
def Session.calls (s : Session σ μ) : List (String × Record) :=
  s.invocations.toList.map Invocation.request

namespace Session

/-- Sessions that differ in what was said and kept alone have made the same calls. -/
theorem calls_eq_of_bare {ν : Type} {s : Session σ μ} {t : Session σ ν} (h : s.bare = t.bare) :
    s.calls = t.calls :=
  congrArg (fun u : Session σ Unit => u.invocations.toList.map Invocation.request) h

/-- A call that is made comes last. -/
theorem calls_of_push {s t : Session σ μ} {i : Invocation}
    (h : t.invocations = s.invocations.push i) : t.calls = s.calls ++ [i.request] := by
  unfold calls
  rw [h, Array.toList_push, List.map_append, List.map_singleton]

/-- There are as many calls as were made. -/
theorem length_calls (s : Session σ μ) : s.calls.length = s.invocations.size :=
  List.length_map _

end Session

/-! ## Journals -/

/-- A store with a journal of calls beside it. -/
structure Journaled (σ : Type) where
  store : σ
  journal : List (String × Record)

/-- The store and the journal with one more entry. -/
def Journaled.enter (entry : String × Record) (s : Journaled σ) : Journaled σ :=
  { s with journal := s.journal ++ [entry] }

namespace Call

/-- The call on a store with a journal beside it, which it leaves alone. -/
def beside : Call σ α → Call (Journaled σ) α
  | .answer result => .answer result
  | .store change next =>
    .store (fun s => { s with store := change s.store }) fun s => (next s.store).beside
  | .pause ms next => .pause ms next.beside
  | .occupy ms next => .occupy ms next.beside
  | .cancel next => .cancel next.beside
  | .note event next => .note event next.beside

/-- The call that makes an entry in the journal before anything else. -/
def journaled (entry : String × Record) (c : Call σ α) : Call (Journaled σ) α :=
  .store (.enter entry) fun _ => c.beside

end Call

/-- The processor that notes what it is asked. -/
def Processor.journaled (p : Processor σ) : Processor (Journaled σ) :=
  { p with process := fun input => (p.process input).journaled (p.name, input) }

/-- The switcher that notes what it is asked. -/
def Switcher.journaled (s : Switcher σ) : Switcher (Journaled σ) :=
  { s with check := fun input => (s.check input).journaled (s.name, input) }

/-- The apparatus that notes what it is asked. -/
def Apparatus.journaled : Apparatus σ → Apparatus (Journaled σ)
  | processor p => processor p.journaled
  | switcher s => switcher s.journaled

/-- An apparatus that notes what it is asked has the name that it had. -/
@[simp]
theorem Apparatus.name_journaled (x : Apparatus σ) : x.journaled.name = x.name := by
  cases x <;> rfl

/-- The foundry whose apparatus note what they are asked. -/
def Foundry.journaled (f : Foundry σ) : Foundry (Journaled σ) where
  apparatus := f.apparatus.map Apparatus.journaled
  named := by
    rintro ⟨name, x⟩ he
    obtain ⟨⟨own, y⟩, hy, heq⟩ := List.mem_filterMap.1 he
    cases heq
    exact y.name_journaled.trans (f.named _ hy)

/-- The site whose call notes what it is asked. -/
def Site.journaled (site : Site σ) : Site (Journaled σ) :=
  { site with call := fun input => (site.call input).journaled (site.apparatus, input) }

/-- The beginning of a visit, with a call that notes what it is asked. -/
def Entered.journaled {a : Alignment} : Entered σ a → Entered (Journaled σ) a
  | .visited v => .visited v
  | .calls site input => .calls site.journaled input

namespace Session

/-- The session with a journal beside its store. -/
def beside (s : Session σ μ) (journal : List (String × Record)) : Session (Journaled σ) μ :=
  { s with store := ⟨s.store, journal⟩ }

/-- The session whose journal has the calls that were made. -/
def journaled (s : Session σ μ) : Session (Journaled σ) μ := s.beside s.calls

end Session

/-- The stand of a run whose journal has the calls that were made. -/
def Stand.journaled {a : Alignment} (st : Stand σ μ a) : Stand (Journaled σ) μ a :=
  ⟨st.place, st.progress, st.session.journaled⟩

/-- What a turn comes to, with a journal that has the calls that were made. -/
def Turn.journaled {a : Alignment} : Turn σ μ a → Turn (Journaled σ) μ a
  | .completed step onward p s => .completed step onward p s.journaled
  | .halted fault p s => .halted fault p s.journaled

/-- The operator whose callables note what they are asked. -/
def Operator.journaled (op : Operator σ μ) : Operator (Journaled σ) μ :=
  { op with foundry := op.foundry.journaled }

/-! ## One call -/

namespace Session

/-- Events are said beside a journal as they are without one. -/
@[simp]
theorem sayAll_beside (s : Session σ μ) (journal : List (String × Record)) (events : List Event) :
    (s.beside journal).sayAll events = (s.sayAll events).beside journal := by
  induction events generalizing s with
  | nil => rfl
  | cons e rest ih => exact ih (s.say e)

/-- A callable asks for the run to stop beside a journal as it does without one. -/
theorem cancel_beside (s : Session σ μ) (journal : List (String × Record)) :
    (s.beside journal).cancel = s.cancel.beside journal := by
  unfold cancel beside
  split <;> rfl

/-- A pause goes beside a journal as it does without one. -/
theorem pauseUntil_beside (s : Session σ μ) (journal : List (String × Record))
    (deadline : Option Nat) (wake : Nat) :
    (s.beside journal).pauseUntil deadline wake =
      ((s.pauseUntil deadline wake).1, (s.pauseUntil deadline wake).2.beside journal) := by
  have htoken : (s.beside journal).tokenTime = s.tokenTime := rfl
  have hnow : (s.beside journal).now = s.now := rfl
  unfold pauseUntil
  rw [htoken, hnow]
  dsimp only
  repeat' split
  all_goals rfl

/-- A journal that has the calls has them after the session said something or kept something. -/
theorem beside_calls_of_bare {s t : Session σ μ} (h : t.bare = s.bare) :
    t.beside s.calls = t.journaled := by
  unfold journaled
  rw [calls_eq_of_bare h]

end Session

namespace Call

/-- A call goes beside a journal as it does without one. -/
theorem await_beside (deadline : Option Nat) (c : Call σ α) (s : Session σ μ)
    (journal : List (String × Record)) :
    c.beside.await deadline (s.beside journal) =
      ((c.await deadline s).1, (c.await deadline s).2.beside journal) := by
  induction c generalizing s with
  | answer result => rfl
  | store change next ih => exact ih s.store { s with store := change s.store }
  | occupy ms next ih => exact ih { s with now := s.now + ms }
  | cancel next ih =>
    rw [beside, await, Session.cancel_beside]
    exact ih s.cancel
  | note event next ih => exact ih (s.say event)
  | pause ms next ih =>
    have hpause := s.pauseUntil_beside journal deadline (s.now + ms)
    rw [beside, await, await, show (s.beside journal).now = s.now from rfl, hpause]
    rcases s.pauseUntil deadline (s.now + ms) with ⟨why?, t⟩
    cases why? with
    | none => exact ih t
    | some why => rfl

/-- **A call that notes what it is asked** makes one entry and goes as it would have gone. -/
theorem await_journaled (deadline : Option Nat) (c : Call σ α) (s : Session σ μ)
    (apparatus : String) (input : Record) :
    (c.journaled (apparatus, input)).await deadline ((s.invoke apparatus input).beside s.calls) =
      ((c.await deadline (s.invoke apparatus input)).1,
        (c.await deadline (s.invoke apparatus input)).2.journaled) := by
  have hcalls : (c.await deadline (s.invoke apparatus input)).2.calls =
      s.calls ++ [(apparatus, input)] :=
    Session.calls_of_push (c.await_later deadline (s.invoke apparatus input)).2
  rw [Session.journaled, hcalls]
  exact c.await_beside deadline (s.invoke apparatus input) (s.calls ++ [(apparatus, input)])

/-- The answer of a call is replaced by its image beside a journal as it is without one. -/
theorem map_beside (f : α → β) (c : Call σ α) : c.beside.map f = (c.map f).beside := by
  induction c with
  | answer result => rfl
  | store change next ih => exact congrArg (store _) (funext fun s => ih s.store)
  | pause ms next ih => exact congrArg (pause ms) ih
  | occupy ms next ih => exact congrArg (occupy ms) ih
  | cancel next ih => exact congrArg cancel ih
  | note event next ih => exact congrArg (note event) ih

/-- A call notes what it is asked before its answer is replaced by its image. -/
theorem map_journaled (f : α → β) (entry : String × Record) (c : Call σ α) :
    (c.journaled entry).map f = (c.map f).journaled entry :=
  congrArg (store _) (funext fun _ => c.map_beside f)

end Call

/-! ## One visit -/

namespace Foundry

/-- The foundry whose apparatus note what they are asked has them under the same names. -/
theorem get?_journaled (f : Foundry σ) (name : String) :
    f.journaled.get? name = (f.get? name).map Apparatus.journaled :=
  f.apparatus.get?_map Apparatus.journaled name

/-- What is found under a name has that name. -/
theorem name_of_get? {f : Foundry σ} {name : String} {x : Apparatus σ} (h : f.get? name = some x) :
    x.name = name :=
  f.named (name, x) (Named.get?_eq_some_iff.1 h)

end Foundry

/-- **A process asks the processor of its name, once.** -/
theorem Process.site_journaled (f : Foundry σ) (p : Process) :
    p.site f.journaled = Site.journaled <$> p.site f := by
  unfold Process.site Foundry.processor?
  rw [f.get?_journaled]
  cases hfound : f.get? p.apparatus with
  | none => rfl
  | some x =>
    cases x with
    | switcher s => rfl
    | processor own =>
      have hname : own.name = p.apparatus := Foundry.name_of_get? hfound
      dsimp only [Option.map_some, Apparatus.journaled, Processor.journaled]
      simp only [Call.map_journaled, hname]
      rfl

/-- **A switch asks the switcher of its name, once.** -/
theorem Switch.site_journaled (f : Foundry σ) (sw : Switch) :
    sw.site f.journaled = Site.journaled <$> sw.site f := by
  unfold Switch.site Foundry.switcher?
  rw [f.get?_journaled]
  cases hfound : f.get? sw.apparatus with
  | none => rfl
  | some x =>
    cases x with
    | processor p => rfl
    | switcher own =>
      have hname : own.name = sw.apparatus := Foundry.name_of_get? hfound
      dsimp only [Option.map_some, Apparatus.journaled, Switcher.journaled]
      simp only [Call.map_journaled, hname]
      rfl

/-- The beginning of a visit asks nothing. -/
theorem Node.enter_journaled (n : Node) (f : Foundry σ) (a : Alignment) (o : Order)
    (r : Registers) :
    n.enter f.journaled a o r =
      ((n.enter f a o r).1, Entered.journaled <$> (n.enter f a o r).2.1, (n.enter f a o r).2.2) := by
  have hsite (site : Site σ) : site.journaled.enter a r =
      ((site.enter a r).1, Entered.journaled <$> (site.enter a r).2.1, (site.enter a r).2.2) := by
    dsimp only [Site.enter, Site.journaled]
    cases r.gather site.node site.inputs site.contract <;> rfl
  cases n with
  | ingress i =>
    dsimp only [Node.enter]
    cases (i.visit a o r).1 <;> rfl
  | egress x =>
    dsimp only [Node.enter]
    cases x.visit a r <;> rfl
  | process p =>
    dsimp only [Node.enter]
    rw [p.site_journaled f]
    cases p.site f with
    | error fault => rfl
    | ok site => exact hsite site
  | switch sw =>
    dsimp only [Node.enter]
    rw [sw.site_journaled f]
    cases sw.site f with
    | error fault => rfl
    | ok site => exact hsite site

namespace Operator

/-- A visit goes alike, and the journal has the calls afterwards. -/
theorem visit_journaled (op : Operator σ μ) (a : Alignment) (e : Errand) (p : Progress) (n : Node)
    (s : Session σ μ) :
    op.journaled.visit a e p n s.journaled =
      ((op.visit a e p n s).1, (op.visit a e p n s).2.1, (op.visit a e p n s).2.2.journaled) := by
  have henter := n.enter_journaled op.foundry a e.order p.registers
  unfold visit
  rw [show op.journaled.foundry = op.foundry.journaled from rfl, henter]
  rcases n.enter op.foundry a e.order p.registers with ⟨events, entered, r⟩
  have hsaid := Session.beside_calls_of_bare (s.bare_sayAll events)
  dsimp only
  rw [Session.journaled, Session.sayAll_beside]
  cases entered with
  | error fault => exact congrArg (fun u => (Except.error fault, r, u)) hsaid
  | ok entered =>
    cases entered with
    | visited v => exact congrArg (fun u => (Except.ok v, r, u)) hsaid
    | calls site input =>
      have hawait := (site.call input).await_journaled (op.deadline e.started) (s.sayAll events)
        site.apparatus input
      rw [Session.calls_eq_of_bare (s.bare_sayAll events)] at hawait
      have hasked : (((s.sayAll events).beside s.calls).invoke site.apparatus input) =
          ((s.sayAll events).invoke site.apparatus input).beside s.calls := rfl
      dsimp only [Functor.map, Except.map, Entered.journaled, Site.journaled]
      rw [hasked, show op.journaled.deadline e.started = op.deadline e.started from rfl, hawait]
      rcases (site.call input).await (op.deadline e.started)
        ((s.sayAll events).invoke site.apparatus input) with ⟨ended, t⟩
      cases ended with
      | interrupted why => rfl
      | answered result =>
        cases result with
        | error cause => rfl
        | ok answer =>
          dsimp only
          have hleave : site.journaled.leave a input answer r = site.leave a input answer r := rfl
          rw [Site.journaled] at hleave
          rw [hleave]
          rcases site.leave a input answer r with ⟨said, result, r'⟩
          dsimp only
          rw [Session.journaled, Session.sayAll_beside,
            Session.beside_calls_of_bare (t.bare_sayAll said)]

/-! ## Runs -/

/-- A turn goes alike. -/
theorem turn_journaled (op : Operator σ μ) (a : Alignment) (e : Errand) (st : Stand σ μ a) :
    op.journaled.turn a e st.journaled = (op.turn a e st).journaled := by
  have hcheck : op.journaled.checkpoint e.started (a.node st.place) st.progress
      st.session.journaled = op.checkpoint e.started (a.node st.place) st.progress st.session := rfl
  unfold turn
  dsimp only [Stand.journaled]
  rw [hcheck]
  cases op.checkpoint e.started (a.node st.place) st.progress st.session with
  | error fault => rfl
  | ok p =>
    dsimp only
    rw [op.visit_journaled]
    rcases op.visit a e p (a.node st.place) st.session with ⟨result, registers, s⟩
    cases result with
    | error fault => rfl
    | ok v => rfl

/-- The medium is handed the same steps. -/
theorem emit_journaled (op : Operator σ μ) (step : Step) (s : Session σ μ) :
    op.journaled.emit step s.journaled = (op.emit step s).journaled := by
  rw [← Session.beside_calls_of_bare (op.bare_emit step s), Session.journaled]
  unfold emit
  rw [show op.journaled.medium = op.medium from rfl]
  cases op.medium with
  | none => rfl
  | some medium =>
    dsimp only
    have hkept : (s.beside s.calls).kept = s.kept := rfl
    rw [hkept]
    have hsaid := Session.sayAll_beside { s with kept := (medium.record step s.kept).kept } s.calls
      (medium.record step s.kept).events
    dsimp only [Session.beside] at hsaid ⊢
    rw [hsaid]
    cases (medium.record step s.kept).result <;> rfl

/-- The turns of a run go alike. -/
theorem walk_journaled (op : Operator σ μ) (a : Alignment) (e : Errand) (st : Stand σ μ a) :
    op.journaled.walk a e st.journaled =
      ((op.walk a e st).1, (op.walk a e st).2.1, (op.walk a e st).2.2.journaled) := by
  have hturns := op.turn_journaled a e st
  cases hturn : op.turn a e st with
  | halted fault p s =>
    rw [hturn] at hturns
    rw [walk_halted hturn, walk_halted hturns]
  | completed step onward p s =>
    rw [hturn] at hturns
    cases onward with
    | done output => rw [walk_done hturn, walk_done hturns, op.emit_journaled]
    | next place =>
      have := turn_completed_lt hturn
      rw [walk_next hturn, walk_next hturns, op.emit_journaled]
      exact op.walk_journaled a e ⟨place, p, op.emit step s⟩
termination_by op.limits.maxSteps.toNat - st.progress.steps.toNat

/-- **A run over callables that note what they are asked** is the run over the callables themselves,
and the journal has the calls of the run. -/
theorem run_journaled (op : Operator σ μ) (a : Alignment) (order : Order) (runId : RunId)
    (s : Session σ μ) :
    op.journaled.run a order runId s.journaled =
      ((op.run a order runId s).1, (op.run a order runId s).2.journaled) := by
  have hvalidate : a.validate op.foundry.journaled = a.validate op.foundry :=
    Alignment.validate_of_kind fun name _ => by
      rw [Foundry.get?_journaled, Option.map_map]
      refine congrArg (Option.map · _) (funext fun x => ?_)
      cases x <;> rfl
  have hpreflight : op.journaled.preflight a = op.preflight a := by
    unfold preflight
    rw [show op.journaled.foundry = op.foundry.journaled from rfl, hvalidate]
    rfl
  unfold run travel
  rw [hpreflight]
  cases op.preflight a with
  | error fault => rfl
  | ok place =>
    have hwalk := op.walk_journaled a ⟨runId, order, s.now⟩ ⟨place, {}, s.say (.runOpened a.size)⟩
    dsimp only [Stand.journaled] at hwalk ⊢
    have hopened : s.journaled.say (.runOpened a.size) = (s.say (.runOpened a.size)).journaled := rfl
    have hnow : s.journaled.now = s.now := rfl
    rw [hopened, hnow, hwalk]
    rfl

end Operator
end ApparatusGraph
