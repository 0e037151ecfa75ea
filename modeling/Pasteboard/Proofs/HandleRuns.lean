import Mathlib.Data.List.Forall2
import Pasteboard.Proofs.Runs
import Pasteboard.Proofs.Visits

/-!
# Which commands a handle runs

A handle for a tool runs commands while it is in use, and the host goes on changing meanwhile: there
are other variables, other programs, another disk. `Handle.Doing` is any use of a handle with any
such changes in between, and `Handle.Doing.moments` are the steps that are taken with the handle,
each with what it finds: whether the handle has been released, the environment of the process at
that time, and which runs are started there.

What a step runs is settled by these alone (`Tool.Makes`), whatever codecs the tool speaks. One step
runs just that (`Handle.Held.makes_perform`), so the runs of any use are those of its moments, one
after the other, and there are no others (`Handle.Doing.runs_of_moments`).

A run inherits the environment of the process or has one of its own. That is a map in which the
variables of the tool win, and of two with one name the last (`Environment.get?_override`).
-/

namespace Pasteboard

variable {β : Type}

/-! ### Environments -/

namespace Environment

variable {e : Environment}

/-- The last entry of a name counts. -/
theorem get?_cons (entry : Text × Text) (e : Environment) (name : Text) :
    get? (entry :: e) name = (e.get? name).or (if entry.1 = name then some entry.2 else none) := by
  rw [get?, get?, List.reverse_cons, List.find?_append, Option.map_or, List.find?_singleton]
  by_cases h : entry.1 = name <;> simp [h]

theorem any_eq_isSome (e : Environment) (name : Text) :
    (e.any fun entry => decide (entry.1 = name)) = (e.get? name).isSome := by
  induction e with
  | nil => rfl
  | cons entry e ih =>
    rw [List.any_cons, ih, get?_cons, Option.isSome_or, Bool.or_comm]
    by_cases h : entry.1 = name <;> simp [h]

/-- All entries of a name are given a value: that is its value then, if there are any. -/
theorem get?_map_set (e : Environment) (name value other : Text) :
    get? (e.map fun entry => if entry.1 = name then (name, value) else entry) other =
      if other = name then (e.get? name).map fun _ => value else e.get? other := by
  induction e with
  | nil => simp [get?]
  | cons entry e ih =>
    rw [List.map_cons, get?_cons, ih, get?_cons, get?_cons, Option.map_or]
    by_cases hother : other = name
    · by_cases hentry : entry.1 = name <;> simp [hother, hentry]
    · by_cases hentry : entry.1 = name
      · simp [hentry, hother, Ne.symm hother]
      · simp [hentry, hother]

/-- A variable that is set has its value, and the others have what they had. -/
theorem get?_insert (e : Environment) (name value other : Text) :
    (e.insert name value).get? other = if other = name then some value else e.get? other := by
  rw [insert, any_eq_isSome]
  rcases hold : e.get? name with _ | old
  · -- there is no entry of the name, so one is put at the end
    have hlast : (e ++ [(name, value)]).reverse = (name, value) :: e.reverse := by simp
    rw [Option.isSome_none, if_neg Bool.false_ne_true, get?, hlast, List.find?_cons]
    by_cases h : other = name
    · simp [h]
    · simp [h, Ne.symm h, get?]
  · rw [Option.isSome_some, if_pos rfl, get?_map_set, hold, Option.map_some]

theorem get?_foldl_insert (entries e : Environment) (name : Text) :
    (entries.foldl (fun e entry => e.insert entry.1 entry.2) e).get? name =
      (entries.get? name).or (e.get? name) := by
  induction entries generalizing e with
  | nil => rfl
  | cons entry entries ih =>
    rw [List.foldl_cons, ih, get?_insert, get?_cons, Option.or_assoc]
    by_cases h : entry.1 = name
    · simp [h]
    · simp [h, Ne.symm h]

/-- **The variables that are added win**, and the others stay. -/
theorem get?_override (e extra : Environment) (name : Text) :
    (e.override extra).get? name = (extra.get? name).or (e.get? name) := by
  have hempty : get? [] name = none := rfl
  rw [override, List.foldl_append, get?_foldl_insert, get?_foldl_insert, hempty, Option.or_none]

/-- Setting a variable puts no name there twice. -/
theorem nodup_insert (h : (e.map Prod.fst).Nodup) (name value : Text) :
    ((e.insert name value).map Prod.fst).Nodup := by
  rw [insert]
  split_ifs with hany
  · have hnames :
        (e.map fun entry => if entry.1 = name then (name, value) else entry).map Prod.fst =
        e.map Prod.fst := by
      rw [List.map_map]
      refine List.map_congr_left fun entry _ => ?_
      by_cases hentry : entry.1 = name <;> simp [hentry]
    rwa [hnames]
  · have hnew : name ∉ e.map Prod.fst := by simpa using hany
    rw [List.map_append, List.map_singleton, List.nodup_append]
    refine ⟨h, by simp, fun other hother single hsingle => ?_⟩
    rw [List.mem_singleton.1 hsingle]
    rintro rfl
    exact hnew hother

theorem nodup_foldl_insert (entries : Environment) (h : (e.map Prod.fst).Nodup) :
    ((entries.foldl (fun e entry => e.insert entry.1 entry.2) e).map Prod.fst).Nodup := by
  induction entries generalizing e with
  | nil => exact h
  | cons entry entries ih => exact ih (nodup_insert h entry.1 entry.2)

theorem nodup_override (e extra : Environment) : ((e.override extra).map Prod.fst).Nodup :=
  nodup_foldl_insert _ List.nodup_nil

end Environment

/-! ### What a step makes -/

namespace Tool

/-- Both commands of the tool have a first word, and there are codecs of the names that the tool
gives, whatever these do. -/
structure Complete (tool : Tool) : Prop where
  starts : ∀ op, tool.command op ≠ []
  writes : ∃ codec, tool.writeEncoding.codec? = some codec
  reads : ∃ codec, tool.readEncoding.codec? = some codec

/-- The environment of a run of the tool: it inherits that of the process if the tool adds no
variables, and otherwise it is a map of its own. There a variable that the tool adds has the value
that the tool gives it last, and any other one the value that it has in the process. -/
inductive Equips (tool : Tool) (inherited : Environment) : Option Environment → Prop
  | inherits (plain : tool.extraVariables = []) : Equips tool inherited none
  | own {e : Environment} (added : tool.extraVariables ≠ []) (once : (e.map Prod.fst).Nodup)
      (values : ∀ name, e.get? name = (tool.extraVariables.get? name).or (inherited.get? name)) :
      Equips tool inherited (some e)

theorem equips_environment? (tool : Tool) (inherited : Environment) :
    tool.Equips inherited (tool.environment? inherited) := by
  rw [environment?]
  split_ifs with hplain
  · exact .inherits (List.isEmpty_iff.1 hplain)
  · exact .own (mt List.isEmpty_iff.2 hplain) (Environment.nodup_override _ _)
      (Environment.get?_override _ _)

/-- The run is that of the command of an operation. Copying hands over octets and discards what the
command prints; reading hands over nothing and captures it. -/
structure Orders (tool : Tool) (timeout : Value) (inherited : Environment) (op : Operation)
    (input : Option Bytes) (r : Run) : Prop where
  command : r.command = tool.command op
  input : r.input = input
  discards : op = .copy → r.output = .discard
  captures : op = .read → r.output = .capture
  timeout : r.timeout = timeout
  environment : tool.Equips inherited r.environment

theorem orders_runOf (tool : Tool) (timeout : Value) (inherited : Environment) (op : Operation)
    (input : Option Bytes) :
    tool.Orders timeout inherited op input (tool.runOf op timeout inherited input) := by
  refine ⟨rfl, rfl, ?_, ?_, rfl, tool.equips_environment? inherited⟩
  · rintro rfl
    rfl
  · rintro rfl
    rfl

end Tool

/-- A step with a handle and what it finds. -/
structure Handle.Moment where
  /-- The handle has been released. -/
  closed : Bool
  /-- The environment of the process. -/
  environment : Environment
  /-- The runs that are started. Others find no files for what they would print. -/
  starts : Run → Bool
  step : Handle.Step

/-- The runs that a step makes on a handle for the tool, in order.

A released handle runs nothing, and releasing it runs nothing either. To set a text is one run of
the copy command, which is handed the octets of the text, or no run at all if the codec of the tool
has no octets for the text; a charset has none exactly if it lacks one of the code points. To get a
text, in a block that the handle is released after or by itself, is one run of the paste command,
which is handed nothing. -/
inductive Tool.Makes (tool : Tool) (timeout : Value) : Handle.Moment → List Run → Prop
  | released {e : Environment} {starts : Run → Bool} {step : Handle.Step} :
    Makes tool timeout ⟨true, e, starts, step⟩ []
  | close {e : Environment} {starts : Run → Bool} : Makes tool timeout ⟨false, e, starts, .close⟩ []
  | set {e : Environment} {starts : Run → Bool} {codec : Codec} {t : Text} {octets : Bytes}
      {r : Run}
      (known : tool.writeEncoding.codec? = some codec) (encode : codec.encode t = .ok octets)
      (run : tool.Orders timeout e .copy (some octets) r) :
      Makes tool timeout ⟨false, e, starts, .set (.text t)⟩ (if starts r then [r] else [])
  | unencodable {e : Environment} {starts : Run → Bool} {codec : Codec} {t : Text}
      (known : tool.writeEncoding.codec? = some codec)
      (fails : ∀ octets, codec.encode t ≠ .ok octets)
      (lacks : ∀ cs : Charset, codec = cs.codec → ¬ ∀ c ∈ t, cs.Covers c) :
      Makes tool timeout ⟨false, e, starts, .set (.text t)⟩ []
  | noText {e : Environment} {starts : Run → Bool} {v : Value} (other : ∀ t, v ≠ .text t) :
      Makes tool timeout ⟨false, e, starts, .set v⟩ []
  | get {e : Environment} {starts : Run → Bool} {r : Run}
      (run : tool.Orders timeout e .read none r) :
      Makes tool timeout ⟨false, e, starts, .get⟩ (if starts r then [r] else [])
  | scopedGet {e : Environment} {starts : Run → Bool} {r : Run}
      (run : tool.Orders timeout e .read none r) :
      Makes tool timeout ⟨false, e, starts, .scopedGet⟩ (if starts r then [r] else [])

/-- The runs that are started on a host. -/
def Host.starts (host : Host β) (r : Run) : Bool :=
  (host.programs.run host.environment r host.disk).1.isRun

/-- A text that a charset covers has octets in its codec. -/
theorem Charset.exists_encode_codec {cs : Charset} {t : Text} (h : ∀ c ∈ t, cs.Covers c) :
    ∃ octets, cs.codec.encode t = .ok octets := by
  obtain ⟨octets, hoctets⟩ := Charset.exists_encode_iff.2 h
  exact ⟨octets, mapError_eq_ok_iff.2 hoctets⟩

namespace Tool

variable {tool : Tool}

/-- A hook that serves a request is one run, or none if there is nothing to hand over. -/
theorem runs_start_hook (h : tool.Complete) (r : Request) (timeout : Value) (stripLineEnd : Bool)
    (host : Host β) :
    ((r.hook (tool.hooks timeout stripLineEnd)).start host).2.runs =
      host.runs ++ match r.input tool with
        | .error _ => []
        | .ok input => host.started (tool.runOn host r.operation timeout input) := by
  obtain ⟨program, words, hcommand⟩ := List.exists_cons_of_ne_nil (h.starts r.operation)
  rw [start_hook hcommand]
  rcases r.input tool with f | input
  · exact (List.append_nil _).symm
  · rfl

/-- Setting and getting a text on an open handle make their runs. -/
theorem makes_hook (h : tool.Complete) (r : Request) (timeout : Value) (stripLineEnd : Bool)
    (host : Host β) :
    ∃ made, tool.Makes timeout ⟨false, host.environment, host.starts, r.step⟩ made ∧
      ((r.hook (tool.hooks timeout stripLineEnd)).start host).2.runs = host.runs ++ made := by
  rw [runs_start_hook h]
  refine ⟨_, ?_, rfl⟩
  cases r with
  | copy t =>
    obtain ⟨codec, hcodec⟩ := h.writes
    rw [Request.input, encode_of_codec hcodec]
    rcases hencode : codec.encode t with fault | octets
    · refine .unencodable hcodec (fun octets => by rw [hencode]; rintro ⟨⟩) ?_
      rintro cs rfl hcovers
      obtain ⟨octets, hoctets⟩ := Charset.exists_encode_codec hcovers
      rw [hencode] at hoctets
      cases hoctets
    · exact .set hcodec hencode (tool.orders_runOf timeout _ .copy _)
  | read => exact .get (tool.orders_runOf timeout _ .read _)

end Tool

namespace Handle

namespace Held

/-- A step with the handle and what it finds. -/
def moment (held : Held (Host β)) (step : Step) : Moment :=
  ⟨held.handle.closed, held.state.environment, held.state.starts, step⟩

variable {tool : Tool} {timeout : Value} {stripLineEnd : Bool}

/-- **One step** with a handle for the tool adds just the runs that it makes. -/
theorem makes_perform (h : tool.Complete) {held : Held (Host β)}
    (hhooks : held.handle.hooks = tool.hooks timeout stripLineEnd) (step : Step) :
    ∃ made, tool.Makes timeout (held.moment step) made ∧
      (held.perform step).2.state.runs = held.state.runs ++ made := by
  obtain ⟨⟨hooks, closed⟩, host⟩ := held
  cases hhooks
  cases closed with
  | true =>
    refine ⟨[], .released, ?_⟩
    rw [perform_of_closed rfl, List.append_nil]
  | false =>
    cases step with
    | get => exact Tool.makes_hook h .read timeout stripLineEnd host
    | set v =>
      cases v with
      | text t => exact Tool.makes_hook h (.copy t) timeout stripLineEnd host
      | _ => exact ⟨[], .noText nofun, (List.append_nil _).symm⟩
    | close => exact ⟨[], .close, (List.append_nil _).symm⟩
    | scopedGet =>
      -- releasing the handle afterwards only sends a notice
      obtain ⟨made, hmade, hruns⟩ := Tool.makes_hook h .read timeout stripLineEnd host
      cases hmade with
      | get run => exact ⟨_, .scopedGet run, hruns⟩

end Held

/-! ### Any use of a handle -/

/-- The handle is released after the step. -/
def Step.releases : Step → Bool
  | .close | .scopedGet => true
  | .get | .set _ => false

theorem closed_after {σ : Type} (h : Handle σ) (step : Step) :
    (h.after step).closed = (h.closed || step.releases) := by
  cases step <;> simp [after, Step.releases]

/-- Each moment finds the handle as the ones before it have left it: open until it is released, and
released from then on. The first one finds it as it is before, and it is as given after the last. -/
inductive InOrder : Bool → List Moment → Bool → Prop
  | nil (closed : Bool) : InOrder closed [] closed
  | cons {closed last : Bool} {e : Environment} {starts : Run → Bool} {step : Step}
      {rest : List Moment} (h : InOrder (closed || step.releases) rest last) :
      InOrder closed (⟨closed, e, starts, step⟩ :: rest) last

theorem InOrder.append {first middle last : Bool} {before after : List Moment}
    (h₁ : InOrder first before middle) (h₂ : InOrder middle after last) :
    InOrder first (before ++ after) last := by
  induction h₁ with
  | nil closed => exact h₂
  | cons h ih => exact .cons (ih h₂)

/-- What is done with a handle on a host that changes. -/
inductive Doing (β : Type)
  /-- No more is done, and this is how it ends. -/
  | finish (result : Except Failure Value)
  /-- A step, and then what follows from how it ended. -/
  | step (step : Step) (next : Except Failure Value → Doing β)
  /-- A block after which the handle is released, and then what follows from how it ended. -/
  | block (body : Doing β) (next : Except Failure Value → Doing β)
  /-- The host changes, and then this is done. -/
  | change (change : Host β → Host β) (rest : Doing β)

/-- The handle on a host that has changed in any way. Which commands were run is a matter of the
past. -/
def Held.changed (held : Held (Host β)) (change : Host β → Host β) : Held (Host β) :=
  ⟨held.handle, { change held.state with runs := held.state.runs }⟩

namespace Doing

/-- Does it with a handle. -/
def run : Doing β → Held (Host β) → Except Failure Value × Held (Host β)
  | finish result, held => (result, held)
  | step s next, held =>
    let ended := held.perform s
    (next ended.1).run ended.2
  | block body next, held =>
    let ended := body.run held
    let left := ended.2.leave ended.1
    (next left.1).run left.2
  | change f rest, held => rest.run (held.changed f)

/-- The steps that are taken with the handle, each with what it finds. To leave a block is to
release the handle. -/
def moments : Doing β → Held (Host β) → List Moment
  | finish _, _ => []
  | step s next, held =>
    let ended := held.perform s
    held.moment s :: (next ended.1).moments ended.2
  | block body next, held =>
    let ended := body.run held
    let left := ended.2.leave ended.1
    body.moments held ++ ended.2.moment .close :: (next left.1).moments left.2
  | change f rest, held => rest.moments (held.changed f)

variable {tool : Tool} {timeout : Value} {stripLineEnd : Bool}

/-- What the handle does stays the same, whatever happens to the host. -/
theorem hooks_run (doing : Doing β) (held : Held (Host β)) :
    (doing.run held).2.handle.hooks = held.handle.hooks := by
  induction doing generalizing held with
  | finish result => rfl
  | step step next ih => exact (ih _ _).trans (hooks_after held.handle step)
  | block body next ihBody ih => exact (ih _ _).trans (ihBody held)
  | change f rest ih => exact ih _

/-- **The runs of any use** of a handle for the tool are those that its moments make, by induction
on what is done. -/
theorem exists_made (h : tool.Complete) (doing : Doing β) {held : Held (Host β)}
    (hhooks : held.handle.hooks = tool.hooks timeout stripLineEnd) :
    ∃ made, List.Forall₂ (tool.Makes timeout) (doing.moments held) made ∧
      (doing.run held).2.state.runs = held.state.runs ++ made.flatten := by
  induction doing generalizing held with
  | finish result => exact ⟨[], .nil, (List.append_nil _).symm⟩
  | step step next ih =>
    obtain ⟨first, hfirst, hruns⟩ := Held.makes_perform h hhooks step
    have hafter : (held.perform step).2.handle.hooks = tool.hooks timeout stripLineEnd :=
      (hooks_after held.handle step).trans hhooks
    obtain ⟨more, hmore, hrest⟩ := ih _ hafter
    refine ⟨first :: more, .cons hfirst hmore, ?_⟩
    rw [run, hrest, hruns, List.flatten_cons, List.append_assoc]
  | block body next ihBody ih =>
    obtain ⟨inside, hinside, hbody⟩ := ihBody hhooks
    have hend : (body.run held).2.handle.hooks = tool.hooks timeout stripLineEnd :=
      (hooks_run body held).trans hhooks
    -- leaving the block leaves the host as releasing the handle does
    obtain ⟨closing, hclosing, hruns⟩ := Held.makes_perform h hend .close
    have hleft : ((body.run held).2.leave (body.run held).1).2.handle.hooks =
        tool.hooks timeout stripLineEnd := (hooks_after _ .close).trans hend
    obtain ⟨more, hmore, hrest⟩ := ih _ hleft
    have hclosed : ((body.run held).2.leave (body.run held).1).2.state.runs =
        held.state.runs ++ inside.flatten ++ closing := by
      rw [← hbody]
      exact hruns
    refine ⟨inside ++ closing :: more, List.rel_append hinside (.cons hclosing hmore), ?_⟩
    rw [run, hrest, hclosed, List.flatten_append, List.flatten_cons]
    simp only [List.append_assoc]
  | change f rest ih => exact @ih (held.changed f) hhooks

theorem inOrder_moments (doing : Doing β) (held : Held (Host β)) :
    InOrder held.handle.closed (doing.moments held) (doing.run held).2.handle.closed := by
  induction doing generalizing held with
  | finish result => exact .nil _
  | step step next ih =>
    refine .cons ?_
    rw [← closed_after]
    exact ih _ (held.perform step).2
  | block body next ihBody ih =>
    refine (ihBody held).append (.cons ?_)
    rw [← closed_after]
    exact ih _ ((body.run held).2.leave (body.run held).1).2
  | change f rest ih => exact ih (held.changed f)

/-- **The runs of a handle.** Something is done with a fresh handle for the tool while the host
changes. The handle goes on doing what that tool does. The moments of this use are in order, and the
runs that have been added are those that the moments make, one after the other. -/
theorem runs_of_moments {tool : Tool} (h : tool.Complete) (timeout : Value)
    (stripLineEnd : Bool) (doing : Doing β) (host : Host β) :
    let held := Held.fresh (tool.hooks timeout stripLineEnd) host
    let reached := (doing.run held).2
    reached.handle.hooks = tool.hooks timeout stripLineEnd ∧
      InOrder false (doing.moments held) reached.handle.closed ∧
      ∃ made, List.Forall₂ (tool.Makes timeout) (doing.moments held) made ∧
        reached.state.runs = host.runs ++ made.flatten := by
  intro held reached
  exact ⟨doing.hooks_run held, doing.inOrder_moments held, doing.exists_made h rfl⟩

/-- A text is set and one is got in a block, with the variables changing in between; a text that is
set after the block makes no run. -/
theorem runs_of_moments_of_changed_variables :
    let tool : Tool := { Tool.xclip with
      writeEncoding := .ofCharset .latin1
      extraVariables := [("LANG", "a"), ("X", "1"), ("LANG", "b")] }
    let timeout := Value.int 2
    let with' (e : Environment) (host : Host Unit) : Host Unit :=
      { host with environment := e, runs := [] }
    let doing : Doing Unit :=
      .change (with' [("LANG", "c"), ("PATH", "/bin")]) <|
      .step (.set (.text "é")) fun _ =>
      .change (with' [("PATH", "/usr/bin")]) <|
      .block (.step .get .finish) fun _ => .step (.set (.text "z")) .finish
    let reached := (doing.run (.fresh (tool.hooks timeout false) (Host.bare ()))).2
    tool.Complete ∧ ∃ first second, reached.state.runs = [first, second] ∧
      tool.Orders timeout [("LANG", "c"), ("PATH", "/bin")] .copy (some [0xe9]) first ∧
      tool.Orders timeout [("PATH", "/usr/bin")] .read none second := by
  intro tool timeout with' doing reached
  have hcomplete : tool.Complete :=
    ⟨fun op => by cases op <;> exact nofun, ⟨_, rfl⟩, ⟨_, rfl⟩⟩
  obtain ⟨-, -, made, hmade, hruns⟩ := runs_of_moments hcomplete timeout false doing (Host.bare ())
  refine ⟨hcomplete, ?_⟩
  have hmoments : doing.moments (.fresh (tool.hooks timeout false) (Host.bare ())) =
      [⟨false, [("LANG", "c"), ("PATH", "/bin")], fun _ => true, .set (.text "é")⟩,
        ⟨false, [("PATH", "/usr/bin")], fun _ => true, .get⟩,
        ⟨false, [("PATH", "/usr/bin")], fun _ => true, .close⟩,
        ⟨true, [("PATH", "/usr/bin")], fun _ => true, .set (.text "z")⟩] := rfl
  rw [hmoments] at hmade
  obtain _ | ⟨hset, _ | ⟨hget, _ | ⟨hclose, _ | ⟨hlate, _ | _⟩⟩⟩⟩ := hmade
  cases hclose
  cases hlate with
  | released =>
    cases hget with
    | get second =>
      cases hset with
      | set known encode first =>
        cases known
        cases encode
        exact ⟨_, _, hruns, first, second⟩
      | unencodable known fails =>
        cases known
        exact absurd rfl (fails [0xe9])
      | noText other => exact absurd rfl (other _)

end Doing

end Handle

end Pasteboard
