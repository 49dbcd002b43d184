/-
# The contracts of the catalogue

The contracts of the catalogue are written by hand, apparatus by apparatus, and so are its
callables.  Each lemma here builds one apparatus and compares the two; the apparatus of the
foundries are those, under their names.

All of them answer at once but `prompt`, which waits for its model: its call succeeds when the
model replies besides.
-/

import ApparatusGraph.Catalogue.Chat
import ApparatusGraph.Proofs.Foundry.Keeping

namespace ApparatusGraph

variable {σ μ : Type}

namespace Catalogue

/-! ## Texts -/

/-- A text is found at a var when the record holds one there. -/
theorem textVar_eq_ok {input : Record} {var : Var} {s : String} :
    textVar input var = .ok s ↔ input.HoldsText var s := by
  unfold textVar Record.HoldsText
  cases input.get? var with
  | none => simp
  | some p =>
    obtain ⟨value, tag⟩ := p
    cases value <;> simp [Param.text?, Value.text?]

/-- What begins with the text of a var succeeds when there is one and the rest succeeds. -/
theorem exists_textVar_bind {α : Type} {input : Record} {var : Var}
    {next : String → Except Failure α} : (∃ answer, textVar input var >>= next = .ok answer) ↔
      ∃ s, input.HoldsText var s ∧ ∃ answer, next s = .ok answer := by
  simp only [bind_eq_ok, textVar_eq_ok]
  constructor
  · rintro ⟨answer, s, hs, hnext⟩
    exact ⟨s, hs, answer, hnext⟩
  · rintro ⟨s, hs, answer, hnext⟩
    exact ⟨answer, s, hs, hnext⟩

/-- A contract on one text asks for it. -/
theorem textGiven_singleton {c : Contract} {input : Record} {var : Var} {description : String}
    (h : c.entries = [(var, .text description)]) :
    c.TextGiven input ↔ ∃ s, input.HoldsText var s := by
  rw [Contract.textGiven_iff, h]
  simp [TypeTag.text]

/-! ## Apparatus that answer at once -/

/-- A processor on one text is built under every name that is not blank, and keeps its contracts. -/
theorem exists_textMap {name description : String} (f : String → String)
    (named : Text.isBlankText name = false) : ∃ p : Processor σ,
    textMap name description f = .ok p ∧ p.name = name ∧
      (Apparatus.processor p).KeepsContracts Apparatus.Always := by
  obtain ⟨p, hbuilt⟩ : ∃ p : Processor σ, textMap name description f = .ok p :=
    Draft.exists_processor named rfl ⟨rfl, rfl⟩ ⟨rfl, rfl⟩ rfl
  obtain ⟨hname, -, ⟨hinput, -⟩, ⟨houtput, -⟩, hprocess⟩ := Draft.toProcessor_eq_ok.1 hbuilt
  refine ⟨p, hbuilt, (Option.some.inj hname).symm, ?_⟩
  have hentries : p.input.entries = [("text", .text "text to transform")] := by
    rw [← Option.some.inj hinput]
    rfl
  refine Processor.keepsContracts (Option.some.inj hprocess).symm (fun input _ => ?_) ?_
  · rw [textGiven_singleton hentries, exists_textVar_bind]
    simp
  · intro input record hanswer
    obtain ⟨s, -, hrecord⟩ := bind_eq_ok.1 hanswer
    cases hrecord
    rw [← Option.some.inj houtput]
    exact ⟨rfl, rfl⟩

/-- The processor that joins texts is built and keeps its contracts. -/
theorem exists_concat : ∃ p : Processor σ, concat = .ok p ∧ p.name = "concat" ∧
    (Apparatus.processor p).KeepsContracts Apparatus.Always := by
  obtain ⟨p, hbuilt⟩ : ∃ p : Processor σ, concat = .ok p :=
    Draft.exists_processor rfl rfl ⟨rfl, rfl⟩ ⟨rfl, rfl⟩ rfl
  obtain ⟨hname, -, ⟨hinput, -⟩, ⟨houtput, -⟩, hprocess⟩ := Draft.toProcessor_eq_ok.1 hbuilt
  refine ⟨p, hbuilt, (Option.some.inj hname).symm, ?_⟩
  have hentries : p.input.entries = [("left", .text "leading text"),
      ("right", .text "trailing text"),
      ("separator", (TypeTag.text "placed between the two").asOptional)] := by
    rw [← Option.some.inj hinput]
    rfl
  refine Processor.keepsContracts (Option.some.inj hprocess).symm (fun input _ => ?_) ?_
  · rw [Contract.textGiven_iff, hentries]
    simp [exists_textVar_bind, TypeTag.text, TypeTag.asOptional]
  · intro input record hanswer
    obtain ⟨left, -, hanswer⟩ := bind_eq_ok.1 hanswer
    obtain ⟨right, -, hrecord⟩ := bind_eq_ok.1 hanswer
    cases hrecord
    rw [← Option.some.inj houtput]
    exact ⟨rfl, rfl⟩

/-- The characters of a text can be counted when their number has 63 bits. -/
theorem characterCount_of_lt {s : String} (h : s.length < 0x8000000000000000) :
    characterCount s = .ok (.ofNat s.length) := by
  unfold characterCount
  rw [if_pos h]

/-- The processor that counts characters is built and keeps its contracts. -/
theorem exists_length : ∃ p : Processor σ, length = .ok p ∧ p.name = "length" ∧
    (Apparatus.processor p).KeepsContracts Apparatus.Always := by
  obtain ⟨p, hbuilt⟩ : ∃ p : Processor σ, length = .ok p :=
    Draft.exists_processor rfl rfl ⟨rfl, rfl⟩ ⟨rfl, rfl⟩ rfl
  obtain ⟨hname, -, ⟨hinput, -⟩, ⟨houtput, -⟩, hprocess⟩ := Draft.toProcessor_eq_ok.1 hbuilt
  refine ⟨p, hbuilt, (Option.some.inj hname).symm, ?_⟩
  have hentries : p.input.entries = [("text", .text "text to measure")] := by
    rw [← Option.some.inj hinput]
    rfl
  refine Processor.keepsContracts (Option.some.inj hprocess).symm (fun input hinput => ?_) ?_
  · rw [textGiven_singleton hentries, exists_textVar_bind]
    refine exists_congr fun s => and_iff_left_of_imp fun hs => ?_
    exact ⟨_, bind_eq_ok.2 ⟨_, characterCount_of_lt (hinput "text" s hs), rfl⟩⟩
  · intro input record hanswer
    obtain ⟨s, -, hanswer⟩ := bind_eq_ok.1 hanswer
    obtain ⟨n, -, hrecord⟩ := bind_eq_ok.1 hanswer
    cases hrecord
    rw [← Option.some.inj houtput]
    exact ⟨rfl, rfl⟩

/-- The switcher on blank texts is built and keeps its contracts. -/
theorem exists_isEmpty : ∃ w : Switcher σ, isEmpty = .ok w ∧ w.name = "is_empty" ∧
    (Apparatus.switcher w).KeepsContracts Apparatus.Always := by
  obtain ⟨w, hbuilt⟩ : ∃ w : Switcher σ, isEmpty = .ok w :=
    Draft.exists_switcher rfl rfl ⟨rfl, rfl⟩ ⟨rfl, rfl⟩ ⟨rfl, rfl⟩ rfl
  obtain ⟨hname, -, ⟨hinput, -⟩, ⟨htrue, -⟩, ⟨hfalse, -⟩, hcheck⟩ :=
    Draft.toSwitcher_eq_ok.1 hbuilt
  refine ⟨w, hbuilt, (Option.some.inj hname).symm, ?_⟩
  have hentries : w.input.entries = [("text", .text "text to check")] := by
    rw [← Option.some.inj hinput]
    rfl
  refine Switcher.keepsContracts (Option.some.inj hcheck).symm (fun input _ => ?_) ?_
  · rw [textGiven_singleton hentries, exists_textVar_bind]
    refine exists_congr fun s => and_iff_left_of_imp fun _ => ?_
    split
    · exact ⟨_, rfl⟩
    · exact ⟨_, rfl⟩
  · intro input verdict record hanswer
    obtain ⟨s, -, hanswer⟩ := bind_eq_ok.1 hanswer
    split at hanswer
    · cases hanswer
      show Record.Fits ∅ w.whenTrue
      rw [← Option.some.inj htrue]
      exact ⟨rfl, rfl⟩
    · cases hanswer
      show Record.Fits _ w.whenFalse
      rw [← Option.some.inj hfalse]
      exact ⟨rfl, rfl⟩

/-- The switcher on parts of texts is built and keeps its contracts. -/
theorem exists_contains : ∃ w : Switcher σ, contains = .ok w ∧ w.name = "contains" ∧
    (Apparatus.switcher w).KeepsContracts Apparatus.Always := by
  obtain ⟨w, hbuilt⟩ : ∃ w : Switcher σ, contains = .ok w :=
    Draft.exists_switcher rfl rfl ⟨rfl, rfl⟩ ⟨rfl, rfl⟩ ⟨rfl, rfl⟩ rfl
  obtain ⟨hname, -, ⟨hinput, -⟩, ⟨htrue, -⟩, ⟨hfalse, -⟩, hcheck⟩ :=
    Draft.toSwitcher_eq_ok.1 hbuilt
  refine ⟨w, hbuilt, (Option.some.inj hname).symm, ?_⟩
  have hentries : w.input.entries =
      [("needle", .text "substring to look for"), ("text", .text "text to search")] := by
    rw [← Option.some.inj hinput]
    rfl
  refine Switcher.keepsContracts (Option.some.inj hcheck).symm (fun input _ => ?_) ?_
  · rw [Contract.textGiven_iff, hentries]
    simp [exists_textVar_bind, TypeTag.text, and_comm]
  · intro input verdict record hanswer
    obtain ⟨s, -, hanswer⟩ := bind_eq_ok.1 hanswer
    obtain ⟨needle, -, hrecord⟩ := bind_eq_ok.1 hanswer
    cases hrecord
    refine Switcher.fits_outputFor ?_ ?_
    · rw [← Option.some.inj htrue]
      exact ⟨rfl, rfl⟩
    · rw [← Option.some.inj hfalse]
      exact ⟨rfl, rfl⟩

/-- A switcher on lengths that is built has its name and keeps its contracts. -/
theorem longerThan_keepsContracts {name : String} {limit : Nat} {w : Switcher σ}
    (hbuilt : longerThan name limit = .ok w) :
    w.name = name ∧ (Apparatus.switcher w).KeepsContracts Apparatus.Always := by
  obtain ⟨hname, -, ⟨hinput, -⟩, ⟨htrue, -⟩, ⟨hfalse, -⟩, hcheck⟩ :=
    Draft.toSwitcher_eq_ok.1 hbuilt
  refine ⟨(Option.some.inj hname).symm, ?_⟩
  have hentries : w.input.entries = [("text", .text "text to measure")] := by
    rw [← Option.some.inj hinput]
    rfl
  refine Switcher.keepsContracts (Option.some.inj hcheck).symm (fun input _ => ?_) ?_
  · rw [textGiven_singleton hentries, exists_textVar_bind]
    simp
  · intro input verdict record hanswer
    obtain ⟨s, -, hrecord⟩ := bind_eq_ok.1 hanswer
    cases hrecord
    refine Switcher.fits_outputFor ?_ ?_
    · rw [← Option.some.inj htrue]
      exact ⟨rfl, rfl⟩
    · rw [← Option.some.inj hfalse]
      exact ⟨rfl, rfl⟩

/-- A switcher on lengths is built under every name that is not blank. -/
theorem exists_longerThan {name : String} (limit : Nat) (named : Text.isBlankText name = false) :
    ∃ w : Switcher σ, longerThan name limit = .ok w :=
  Draft.exists_switcher named rfl ⟨rfl, rfl⟩ ⟨rfl, rfl⟩ ⟨rfl, rfl⟩ rfl

/-! ## The chat processor -/

/-- A model replies at a session to the prompt of a record, under its instructions. -/
def ChatModel.Replies (model : ChatModel σ) (deadline : Option Nat) (s : Session σ μ)
    (input : Record) : Prop :=
  ∃ prompt reply s', input.HoldsText "prompt" prompt ∧
    (model.complete (textVarOr input "system" defaultSystemPrompt) prompt).await deadline s =
      (.answered (.ok reply), s')

/-- A model replies where the apparatus of a name asks it: `prompt` does, and no other. -/
def ChatModel.Serves (model : ChatModel σ) (name : String) (deadline : Option Nat)
    (s : Session σ μ) (input : Record) : Prop :=
  name = "prompt" → model.Replies deadline s input

section Prompt

variable {model : ChatModel σ} {input record : Record} {deadline : Option Nat} {s s' : Session σ μ}

/-- A prompt is answered by what the model replies to it. -/
theorem await_promptCall {prompt : String} (h : input.HoldsText "prompt" prompt) :
    ((promptCall model input).await deadline s).1 =
      ((model.complete (textVarOr input "system" defaultSystemPrompt) prompt).await deadline s).1.map
        fun reply => single "text" (.text reply) := by
  unfold promptCall
  rw [textVar_eq_ok.2 h]
  dsimp only
  rw [Call.await, Call.await_map]
  -- What is said before the model is asked does not change its reply.
  rw [(Call.await_bare deadline _ (Session.bare_say s _)).1]

/-- The call for a model succeeds only if there is a prompt. -/
theorem holdsText_of_await_promptCall
    (h : (promptCall model input).await deadline s = (.answered (.ok record), s')) :
    ∃ prompt, input.HoldsText "prompt" prompt := by
  unfold promptCall at h
  cases hprompt : textVar input "prompt" with
  | error cause =>
    rw [hprompt] at h
    cases h
  | ok prompt => exact ⟨prompt, textVar_eq_ok.1 hprompt⟩

/-- The call for a model succeeds with a reply of the model. -/
theorem exists_reply (h : (promptCall model input).await deadline s = (.answered (.ok record), s')) :
    model.Replies deadline s input ∧ ∃ reply, record = single "text" (.text reply) := by
  obtain ⟨prompt, hprompt⟩ := holdsText_of_await_promptCall h
  have hanswer := congrArg Prod.fst h
  rw [await_promptCall hprompt] at hanswer
  obtain ⟨reply, hreply, rfl⟩ := Awaited.map_eq_answered hanswer
  exact ⟨⟨prompt, reply, _, hprompt, Prod.ext hreply rfl⟩, reply, rfl⟩

end Prompt

/-- The chat processor is built and keeps its contracts as far as its model replies. -/
theorem exists_prompt (model : ChatModel σ) : ∃ p : Processor σ, prompt model = .ok p ∧
    p.name = "prompt" ∧ (Apparatus.processor p).KeepsContracts model.Replies := by
  obtain ⟨p, hbuilt⟩ : ∃ p : Processor σ, prompt model = .ok p :=
    Draft.exists_processor rfl rfl ⟨rfl, rfl⟩ ⟨rfl, rfl⟩ rfl
  obtain ⟨hname, -, ⟨hinput, -⟩, ⟨houtput, -⟩, hprocess⟩ := Draft.toProcessor_eq_ok.1 hbuilt
  have hcall : p.process = promptCall model := (Option.some.inj hprocess).symm
  have hentries : p.input.entries = [("prompt", .text "user message"),
      ("system", (TypeTag.text "system instructions").asOptional)] := by
    rw [← Option.some.inj hinput]
    rfl
  refine ⟨p, hbuilt, (Option.some.inj hname).symm, fun deadline s input _ => ?_, ?_⟩
  · have hgiven : p.input.TextGiven input ↔ ∃ s, input.HoldsText "prompt" s := by
      rw [Contract.textGiven_iff, hentries]
      simp [TypeTag.text, TypeTag.asOptional]
    show _ ↔ p.input.TextGiven input ∧ _
    rw [hgiven]
    constructor
    · rintro ⟨s', c, record, hreplies⟩
      cases hreplies with
      | processor hreplies =>
        rw [hcall] at hreplies
        exact ⟨holdsText_of_await_promptCall hreplies, (exists_reply hreplies).1⟩
    · rintro ⟨-, prompt, reply, s', hprompt, hreply⟩
      refine ⟨_, p.output, single "text" (.text reply), .processor (Prod.ext ?_ rfl)⟩
      rw [hcall, await_promptCall hprompt, hreply]
      rfl
  · rintro _ deadline s s' input record c hreplies
    cases hreplies with
    | processor hreplies =>
      rw [hcall] at hreplies
      obtain ⟨-, reply, rfl⟩ := exists_reply hreplies
      rw [← Option.some.inj houtput]
      exact ⟨rfl, rfl⟩

/-! ## The foundries of the catalogue -/

/-- The processors of the catalogue are built under their names and keep their contracts. -/
theorem exists_processors : ∃ ps : List (Processor σ), processors = .ok ps ∧
    ps.map (·.name) = ["uppercase", "lowercase", "trim", "concat", "length"] ∧
    ∀ p ∈ ps, (Apparatus.processor p).KeepsContracts Apparatus.Always := by
  obtain ⟨upper, hupper, huname, hukeeps⟩ : ∃ p : Processor σ, uppercase = .ok p ∧ _ :=
    exists_textMap Text.upper rfl
  obtain ⟨lower, hlower, hlname, hlkeeps⟩ : ∃ p : Processor σ, lowercase = .ok p ∧ _ :=
    exists_textMap Text.lower rfl
  obtain ⟨trimmed, htrim, htname, htkeeps⟩ : ∃ p : Processor σ, trim = .ok p ∧ _ :=
    exists_textMap Text.trim rfl
  obtain ⟨joined, hjoined, hjname, hjkeeps⟩ := exists_concat (σ := σ)
  obtain ⟨measured, hmeasured, hmname, hmkeeps⟩ := exists_length (σ := σ)
  refine ⟨[upper, lower, trimmed, joined, measured], ?_, ?_, ?_⟩
  · unfold processors
    rw [hupper, hlower, htrim, hjoined, hmeasured]
    rfl
  · simp [huname, hlname, htname, hjname, hmname]
  · simp [hukeeps, hlkeeps, htkeeps, hjkeeps, hmkeeps]

/-- The switchers of the catalogue are built under their names and keep their contracts. -/
theorem exists_switchers : ∃ ws : List (Switcher σ), switchers = .ok ws ∧
    ws.map (·.name) = ["is_empty", "contains", "longer_than_10"] ∧
    ∀ w ∈ ws, (Apparatus.switcher w).KeepsContracts Apparatus.Always := by
  obtain ⟨blank, hblank, hbname, hbkeeps⟩ := exists_isEmpty (σ := σ)
  obtain ⟨found, hfound, hfname, hfkeeps⟩ := exists_contains (σ := σ)
  obtain ⟨long, hlong⟩ := exists_longerThan (σ := σ) standardLengthLimit
    (rfl : Text.isBlankText s!"longer_than_{standardLengthLimit}" = false)
  obtain ⟨hlname, hlkeeps⟩ := longerThan_keepsContracts hlong
  refine ⟨[blank, found, long], ?_, ?_, ?_⟩
  · unfold switchers
    rw [hblank, hfound, hlong]
    rfl
  · rw [List.map_cons, List.map_cons, List.map_cons, hbname, hfname, hlname]
    rfl
  · simp [hbkeeps, hfkeeps, hlkeeps]

/-- A foundry of apparatus that keep their contracts consists of such apparatus. -/
theorem keepsContracts_of_register
    (Given : String → {μ : Type} → Option Nat → Session σ μ → Record → Prop)
    {ps : List (Processor σ)} {ws : List (Switcher σ)} {f : Foundry σ} {name : String}
    {x : Apparatus σ} (hps : ∀ p ∈ ps, (Apparatus.processor p).KeepsContracts (Given p.name))
    (hws : ∀ w ∈ ws, (Apparatus.switcher w).KeepsContracts (Given w.name))
    (hregister : Foundry.register ps ws = .ok f) (hx : f.get? name = some x) :
    x.KeepsContracts (Given name) := by
  obtain ⟨hmem, rfl⟩ := (Foundry.get?_of_register hregister).1 hx
  rcases List.mem_append.1 hmem with hmem | hmem
  · obtain ⟨p, hp, rfl⟩ := List.mem_map.1 hmem
    exact hps p hp
  · obtain ⟨w, hw, rfl⟩ := List.mem_map.1 hmem
    exact hws w hw

/-- The names of the catalogue without the chat processor. -/
def standardNames : List String :=
  ["uppercase", "lowercase", "trim", "concat", "length", "is_empty", "contains", "longer_than_10"]

/-- The first foundry is built, has the standard names, and its apparatus keep their contracts. -/
theorem exists_foundry : ∃ f : Foundry σ, foundry = .ok f ∧
    (∀ name, f.contains name = true ↔ name ∈ standardNames) ∧
    ∀ name x, f.get? name = some x → x.KeepsContracts Apparatus.Always := by
  obtain ⟨ps, hps, hpnames, hpkeep⟩ := exists_processors (σ := σ)
  obtain ⟨ws, hws, hwnames, hwkeep⟩ := exists_switchers (σ := σ)
  obtain ⟨f, hregister⟩ : ∃ f, Foundry.register ps ws = .ok f := by
    refine Foundry.exists_register ?_
    rw [hpnames, hwnames]
    decide
  refine ⟨f, ?_, fun name => ?_, fun name x =>
    keepsContracts_of_register (fun _ => Apparatus.Always) hpkeep hwkeep hregister⟩
  · unfold foundry
    rw [hps, hws]
    exact hregister
  · rw [Foundry.contains_of_register hregister, hpnames, hwnames]
    rfl

/-- Where no name is `prompt`, no model is asked. -/
theorem keepsContracts_serves {α : Type} {l : List α} {name : α → String} {f : α → Apparatus σ}
    (model : ChatModel σ) (hkeep : ∀ a ∈ l, (f a).KeepsContracts Apparatus.Always)
    (hnames : "prompt" ∉ l.map name) :
    ∀ a ∈ l, (f a).KeepsContracts (model.Serves (name a)) := by
  intro a ha
  refine (hkeep a ha).of_iff fun _ _ _ => ⟨fun _ hname => ?_, fun _ => trivial⟩
  exact absurd (hname ▸ List.mem_map_of_mem ha) hnames

/-- The second foundry is built, has one name more, and its apparatus keep their contracts as far as
the model replies. -/
theorem exists_chatFoundry (model : ChatModel σ) : ∃ f, chatFoundry model = .ok f ∧
    (∀ name, f.contains name = true ↔ name = "prompt" ∨ name ∈ standardNames) ∧
    ∀ name x, f.get? name = some x → x.KeepsContracts (model.Serves name) := by
  obtain ⟨ps, hps, hpnames, hpkeep⟩ := exists_processors (σ := σ)
  obtain ⟨ws, hws, hwnames, hwkeep⟩ := exists_switchers (σ := σ)
  obtain ⟨p, hp, hpname, hkeep⟩ := exists_prompt model
  obtain ⟨f, hregister⟩ : ∃ f, Foundry.register (ps ++ [p]) ws = .ok f := by
    refine Foundry.exists_register ?_
    rw [List.map_append, hpnames, hwnames, List.map_singleton, hpname]
    decide
  refine ⟨f, ?_, fun name => ?_, fun name x =>
    keepsContracts_of_register (fun name => model.Serves name) ?_ ?_ hregister⟩
  · unfold chatFoundry
    rw [hps, hp, hws]
    exact hregister
  · rw [Foundry.contains_of_register hregister, List.map_append, hpnames, hwnames,
      List.map_singleton, hpname]
    simp only [standardNames, List.mem_append, List.mem_cons, List.not_mem_nil]
    grind
  · intro q hq
    rcases List.mem_append.1 hq with hq | hq
    · exact keepsContracts_serves model hpkeep (by rw [hpnames]; decide) q hq
    · obtain rfl := List.mem_singleton.1 hq
      exact hkeep.of_iff fun _ _ _ => by simp [ChatModel.Serves, hpname]
  · exact keepsContracts_serves model hwkeep (by rw [hwnames]; decide)

/-! ## Runs -/

/-- The apparatus of the catalogue: those of its two foundries, with whatever model, and the
switchers on lengths. -/
inductive Stock : Apparatus σ → Prop where
  | standard {f name x} (built : foundry = .ok f) (registered : f.get? name = some x) : Stock x
  | chat {model f name x} (built : chatFoundry model = .ok f)
      (registered : f.get? name = some x) : Stock x
  | longerThan {name limit w} (built : Catalogue.longerThan name limit = .ok w) :
      Stock (.switcher w)

/-- The records of the catalogue fit their contracts. -/
theorem Stock.fits {x : Apparatus σ} (h : Stock x) : x.Fits := by
  cases h with
  | standard built registered =>
    obtain ⟨f, hf, -, hkeep⟩ := exists_foundry (σ := σ)
    rw [hf] at built
    cases built
    exact (hkeep _ _ registered).fits
  | @chat model f name x built registered =>
    obtain ⟨f, hf, -, hkeep⟩ := exists_chatFoundry model
    rw [hf] at built
    cases built
    exact (hkeep _ _ registered).fits
  | longerThan built => exact (longerThan_keepsContracts built).2.fits

/-- **The catalogue keeps its contracts.**  Its two foundries are built with the apparatus they are
to have, and each of these, like every switcher on lengths that is built, succeeds when it is given
the texts that its input contract asks for, `prompt` when its model replies besides, and then gives
exactly what its output contract declares.  So over a foundry of such apparatus no run of an
alignment that binds what is declared ends for want of an output, whatever it is ordered and however
long it runs. -/
theorem contracts_kept :
    (∃ f : Foundry σ, foundry = .ok f ∧
      (∀ name, f.contains name = true ↔ name ∈ standardNames) ∧
      ∀ name x, f.get? name = some x → x.KeepsContracts Apparatus.Always) ∧
    (∀ model : ChatModel σ, ∃ f, chatFoundry model = .ok f ∧
      (∀ name, f.contains name = true ↔ name = "prompt" ∨ name ∈ standardNames) ∧
      ∀ name x, f.get? name = some x → x.KeepsContracts (model.Serves name)) ∧
    (∀ name limit (w : Switcher σ), longerThan name limit = .ok w →
      (Apparatus.switcher w).KeepsContracts Apparatus.Always) ∧
    ∀ (op : Operator σ μ) (a : Alignment),
      (∀ name x, op.foundry.get? name = some x → Stock x) → a.BindsDeclared op.foundry →
      ∀ order runId s node var,
        (op.run a order runId s).1.outcome ≠ .error (.missingOutput node var) := by
  refine ⟨exists_foundry, exists_chatFoundry, fun name limit w hbuilt => ?_,
    fun op a hstock hbinds => ?_⟩
  · exact (longerThan_keepsContracts hbuilt).2
  · exact op.not_missingOutput (fun name x hx => (hstock name x hx).fits) hbinds

/-- An alignment that trims the text of its order and looks whether anything is left of it. -/
def cleaning : Alignment where
  operations := [
    .ingress { next := "clean", promptAddr := "order" },
    .process {
      name := "clean", apparatus := "trim", inputs := .ofList [("text", "order")],
      outputs := .ofList [("text", "cleaned")], next := "blank" },
    .switch {
      name := "blank", apparatus := "is_empty", inputs := .ofList [("text", "cleaned")],
      outputsWhenFalse := .ofList [("text", "kept")], nextWhenTrue := "nothing",
      nextWhenFalse := "something" },
    .egress { name := "nothing" },
    .egress { name := "something", result := .ofList [("text", "kept")] }]

/-- The first foundry of the catalogue. -/
def standard : Foundry Unit := (foundry : Except RegistryError (Foundry Unit)).toOption.getD ∅

/-- The alignment is valid over the first foundry and binds what that declares, so no output is
missing when it cleans a text. -/
theorem contracts_kept_cleaning :
    let op : Operator Unit Unit := { foundry := standard }
    let report := (op.run cleaning ⟨" go ", []⟩ (.ofNat 1) { store := (), kept := () }).1
    (∀ name x, op.foundry.get? name = some x → Stock x) ∧ cleaning.BindsDeclared op.foundry ∧
      report.visited = [.ingress, .process "clean", .switch "blank", .egress "something"] ∧
      report.outcome ≠ .error (.missingOutput "blank" "text") := by
  intro op report
  have hstock (name : String) (x : Apparatus Unit) (hx : op.foundry.get? name = some x) : Stock x :=
    .standard (by rfl) hx
  have hbinds : cleaning.BindsDeclared op.foundry := by decide
  obtain ⟨-, -, -, hserved⟩ := contracts_kept (σ := Unit) (μ := Unit)
  exact ⟨hstock, hbinds, by decide +kernel,
    hserved op cleaning hstock hbinds ⟨" go ", []⟩ (.ofNat 1) _ "blank" "text"⟩

end Catalogue
end ApparatusGraph
