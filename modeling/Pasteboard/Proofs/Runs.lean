import Pasteboard.Proofs.Codecs
import Pasteboard.Proofs.Course
import Pasteboard.Proofs.Results

/-!
# The run behind a request

A request that reaches a native tool is one run of a command of that tool, or none if a text that is
to be copied has no octets or the files for what the command prints cannot be had. `Tool.start_hook`
says so once for both requests: which octets are handed over, how the run ends, and what is made of
its output. What is built on it does not open the hooks again.

* The tool of a backend speaks UTF-8 and has commands that start a program (`Tool.Listed`), and no
  other tool is ever chosen (`Tool.listed_of_resolve`).
* A request succeeds exactly if its run ends with status zero and has printed a text
  (`Tool.start_hook_eq_ok_iff`).
* `SystemClipboard.course_asClipboard` is the course of a transfer on the clipboard of the host.
-/

namespace Pasteboard

variable {β : Type}

/-! ### Line ends -/

namespace Text

/-- The second text is the first one without one line end at its end: a carriage return and a line
feed go together, a line feed goes alone where no carriage return is before it, and a text that ends
in neither loses nothing. -/
inductive DropsLineEnd : Text → Text → Prop
  | pair (u : Text) : DropsLineEnd (u ++ "\r\n") u
  | feed (u : Text) (h : ¬ Text.ofString "\r" <:+ u) : DropsLineEnd (u ++ "\n") u
  | nothing (t : Text) (h : ¬ Text.ofString "\n" <:+ t) : DropsLineEnd t t

theorem endsWith_iff {t ending : Text} : t.endsWith ending = true ↔ ending <:+ t :=
  List.isSuffixOf_iff_suffix

theorem take_append (u ending : Text) :
    (u ++ ending).take ((u ++ ending).length - ending.length) = u := by
  rw [List.length_append, Nat.add_sub_cancel, List.take_left]

/-- A line feed behind a carriage return makes a pair. -/
theorem pair_suffix_iff {u : Text} :
    Text.ofString "\r\n" <:+ u ++ Text.ofString "\n" ↔ Text.ofString "\r" <:+ u := by
  have hpair : Text.ofString "\r\n" = Text.ofString "\r" ++ Text.ofString "\n" := rfl
  rw [hpair]
  constructor
  · rintro ⟨w, hw⟩
    rw [← List.append_assoc, List.append_left_inj] at hw
    exact ⟨w, hw⟩
  · rintro ⟨w, rfl⟩
    exact ⟨w, (List.append_assoc _ _ _).symm⟩

/-- **What is taken off the end of a text is one line end.** -/
theorem dropsLineEnd_iff {t u : Text} : t.DropsLineEnd u ↔ u = t.withoutLineEnd := by
  rw [withoutLineEnd]
  constructor
  · rintro (_ | ⟨_, h⟩ | ⟨_, h⟩)
    · rw [if_pos (endsWith_iff.2 (List.suffix_append _ _))]
      exact (take_append u "\r\n").symm
    · rw [if_neg (mt endsWith_iff.1 (mt pair_suffix_iff.1 h)),
        if_pos (endsWith_iff.2 (List.suffix_append _ _))]
      exact (take_append u "\n").symm
    · have hpair : ¬ Text.ofString "\r\n" <:+ t := fun hp =>
        h ((List.suffix_append (Text.ofString "\r") (Text.ofString "\n")).trans hp)
      rw [if_neg (mt endsWith_iff.1 hpair), if_neg (mt endsWith_iff.1 h)]
  · rintro rfl
    split_ifs with hpair hfeed
    · obtain ⟨u, rfl⟩ := endsWith_iff.1 hpair
      have hu : (u ++ Text.ofString "\r\n").take ((u ++ Text.ofString "\r\n").length - 2) = u :=
        take_append u "\r\n"
      rw [hu]
      exact .pair u
    · obtain ⟨u, rfl⟩ := endsWith_iff.1 hfeed
      have hu : (u ++ Text.ofString "\n").take ((u ++ Text.ofString "\n").length - 1) = u :=
        take_append u "\n"
      rw [hu]
      exact .feed u (mt pair_suffix_iff.2 (mt endsWith_iff.2 hpair))
    · exact .nothing t (mt endsWith_iff.2 hfeed)

/-- What is delivered of a text that is read: the text itself, or what is left without a line
end. -/
def Delivers (stripLineEnd : Bool) (t u : Text) : Prop :=
  if stripLineEnd then t.DropsLineEnd u else u = t

theorem delivers_iff {stripLineEnd : Bool} {t u : Text} :
    Delivers stripLineEnd t u ↔ u = if stripLineEnd then t.withoutLineEnd else t := by
  rw [Delivers]
  split_ifs
  · exact dropsLineEnd_iff
  · exact Iff.rfl

end Text

/-! ### The codecs of charsets -/

theorem EncodeFault.message_ne_nil (f : EncodeFault) : f.message ≠ [] := by
  rw [EncodeFault.message]
  have hcolon : Text.ofString ": " ≠ [] := by decide
  exact List.append_ne_nil_of_left_ne_nil (List.append_ne_nil_of_right_ne_nil _ hcolon) _

namespace Charset

variable {cs : Charset} {fault : CodecFault}

/-- The codec of a charset does not break down on a text; it refuses it and says why. -/
theorem refused_of_encode_codec {t : Text} (h : cs.codec.encode t = .error fault) :
    ∃ reason, reason ≠ [] ∧ fault = .refused reason := by
  obtain ⟨f, -, rfl⟩ := mapError_eq_error_iff.1 h
  exact ⟨f.message, f.message_ne_nil, rfl⟩

/-- The codec of a charset does not break down on octets; it refuses them. -/
theorem refused_of_decode_codec {b : Bytes} (h : cs.codec.decode b = .error fault) :
    ∃ reason, fault = .refused reason := by
  obtain ⟨f, -, rfl⟩ := mapError_eq_error_iff.1 h
  exact ⟨f.message, rfl⟩

end Charset

/-! ### Tools of the table -/

namespace Tool

/-- The tool is that of a backend. -/
def Listed (tool : Tool) : Prop := ∃ backend, ofBackend? backend = some tool

theorem Listed.cases {tool : Tool} (h : tool.Listed) :
    tool = pbcopy ∨ tool = wlClipboard ∨ tool = xclip ∨ tool = windows := by
  obtain ⟨backend, h⟩ := h
  cases backend <;> cases h <;> simp

/-- Both commands of a listed tool start with a program. -/
theorem Listed.exists_program {tool : Tool} (h : tool.Listed) (op : Operation) :
    ∃ program words, tool.command op = program :: words := by
  obtain rfl | rfl | rfl | rfl := h.cases <;> cases op <;> exact ⟨_, _, rfl⟩

theorem Listed.encodings {tool : Tool} (h : tool.Listed) :
    tool.writeEncoding = .ofCharset .utf8 ∧ tool.readEncoding = .ofCharset .utf8 := by
  obtain rfl | rfl | rfl | rfl := h.cases <;> exact ⟨rfl, rfl⟩

theorem Listed.writeCodec {tool : Tool} (h : tool.Listed) :
    tool.writeEncoding.codec? = some Charset.utf8.codec := congrArg _ h.encodings.1

theorem Listed.readCodec {tool : Tool} (h : tool.Listed) :
    tool.readEncoding.codec? = some Charset.utf8.codec := congrArg _ h.encodings.2

/-- A tool that a search finds is one of those it goes through. -/
theorem mem_of_firstUsable {around : Surroundings} {tools : List Tool} {reasons : List Failure}
    {tool : Tool} (h : firstUsable around tools reasons = .ok tool) : tool ∈ tools := by
  induction tools generalizing reasons with
  | nil =>
    rw [firstUsable.eq_def] at h
    split at h
    · cases h
    · cases h
    · contradiction
  | cons first rest ih =>
    rw [firstUsable] at h
    split at h
    · cases h
      exact List.mem_cons_self
    · exact List.mem_cons_of_mem _ (ih h)

theorem listed_of_mem_candidates {around : Surroundings} {tools : List Tool}
    (h : candidates around = .ok tools) {tool : Tool} (hmem : tool ∈ tools) : tool.Listed := by
  rw [candidates] at h
  split_ifs at h <;> cases h
  · exact ⟨.pbcopy, by rw [List.mem_singleton.1 hmem]; rfl⟩
  · exact ⟨.windows, by rw [List.mem_singleton.1 hmem]; rfl⟩
  · obtain rfl | hmem := List.mem_cons.1 hmem
    · exact ⟨.wlClipboard, rfl⟩
    · exact ⟨.xclip, by rw [List.mem_singleton.1 hmem]; rfl⟩

/-- **Only listed tools are chosen**, by name or by detection. -/
theorem listed_of_resolve {around : Surroundings} {backend : Backend} {tool : Tool}
    (h : resolve around backend = .ok tool) : tool.Listed := by
  rw [resolve] at h
  split at h
  · next named hnamed =>
    obtain ⟨u, -, h⟩ := bind_eq_ok_iff.1 h
    cases h
    exact ⟨backend, hnamed⟩
  · obtain ⟨tools, hc, h⟩ := bind_eq_ok_iff.1 h
    exact listed_of_mem_candidates hc (mem_of_firstUsable h)

/-! ### What a request hands over and gets back -/

/-- The output of a paste command for the octets of a clipboard. -/
def printed (tool : Tool) (content : Bytes) : Bytes :=
  if tool.outputNewline then content ++ [10] else content

theorem clipped_eq_ok_iff {tool : Tool} {program : Text} {output content : Bytes} :
    tool.clipped program output = .ok content ↔ output = tool.printed content := by
  rw [clipped, printed]
  split_ifs with hnewline hlast
  · obtain ⟨front, rfl⟩ := List.getLast?_eq_some_iff.1 hlast
    rw [Except.ok.injEq, List.dropLast_concat, List.append_left_inj]
  · refine iff_of_false nofun ?_
    rintro rfl
    exact hlast List.getLast?_concat
  · rw [Except.ok.injEq]

theorem encode_of_codec {tool : Tool} {codec : Codec} (h : tool.writeEncoding.codec? = some codec)
    (t : Text) :
    tool.encode t = (codec.encode t).mapError (CodecFault.failure (.operation .copy)) := by
  rw [encode, h]

/-- A text is encoded if it has octets in the charset of the copy command, and these are handed
over. -/
theorem encode_of_charset {tool : Tool} {cs : Charset}
    (h : tool.writeEncoding.codec? = some cs.codec) (t : Text) :
    tool.encode t = (cs.encode t).mapError fun fault => .operation .copy fault.message := by
  rw [encode_of_codec h]
  dsimp only [Charset.codec]
  cases cs.encode t <;> rfl

/-- Octets are decoded by the charset of the paste command. In none of the charsets do no octets
stand for anything but the empty text. -/
theorem decode_of_charset {tool : Tool} {cs : Charset}
    (h : tool.readEncoding.codec? = some cs.codec) (content : Bytes) :
    tool.decode content = (cs.decode content).mapError fun fault =>
      .operation .read ("clipboard content is not valid " ++ tool.readEncoding.name ++ " text: "
        ++ fault.message) := by
  rw [decode, h]
  split_ifs with hempty
  · rw [List.isEmpty_iff.1 hempty]
    cases cs <;> rfl
  · dsimp only [Charset.codec]
    cases cs.decode content <;> rfl

theorem decode_eq_ok_iff {tool : Tool} {cs : Charset}
    (h : tool.readEncoding.codec? = some cs.codec) {content : Bytes} {t : Text} :
    tool.decode content = .ok t ↔ cs.encode t = .ok content := by
  rw [decode_of_charset h, ← Charset.decode_eq_ok_iff]
  exact mapError_eq_ok_iff

/-- The output of a paste command stands for a text if it is what is printed for its octets. -/
theorem interpret_eq_ok_iff {tool : Tool} {cs : Charset}
    (h : tool.readEncoding.codec? = some cs.codec) {stripLineEnd : Bool} {program : Text}
    {output : Bytes} {u : Text} :
    tool.interpret stripLineEnd program output = .ok u ↔
      ∃ content t, cs.encode t = .ok content ∧ output = tool.printed content ∧
        Text.Delivers stripLineEnd t u := by
  rw [interpret, bind_eq_ok_iff]
  constructor
  · rintro ⟨content, hclipped, hok⟩
    obtain ⟨t, hdecode, hu⟩ := bind_eq_ok_iff.1 hok
    cases hu
    exact ⟨content, t, (decode_eq_ok_iff h).1 hdecode, clipped_eq_ok_iff.1 hclipped,
      Text.delivers_iff.2 rfl⟩
  · rintro ⟨content, t, hencode, houtput, hdelivers⟩
    rw [Text.delivers_iff.1 hdelivers]
    exact ⟨content, clipped_eq_ok_iff.2 houtput,
      bind_eq_ok_iff.2 ⟨t, (decode_eq_ok_iff h).2 hencode, rfl⟩⟩

/-- Output that stands for no text is a failure of reading, and it says something, unless the codec
breaks down on what the clipboard holds. -/
theorem interpret_eq_error {tool : Tool} {codec : Codec} (h : tool.readEncoding.codec? = some codec)
    {stripLineEnd : Bool} {program : Text} {output : Bytes} {f : Failure}
    (hf : tool.interpret stripLineEnd program output = .error f) :
    (∃ details, f = .operation .read details ∧ details ≠ []) ∨
      ∃ content, output = tool.printed content ∧ codec.decode content = .error (.broken f) := by
  rw [interpret] at hf
  obtain hclipped | ⟨content, hclipped, hrest⟩ := bind_eq_error_iff.1 hf
  · rw [clipped] at hclipped
    split_ifs at hclipped
    cases hclipped
    exact .inl ⟨_, rfl, List.append_ne_nil_of_right_ne_nil _ (by decide)⟩
  · obtain hdecode | ⟨t, -, ht⟩ := bind_eq_error_iff.1 hrest
    · rw [decode, h] at hdecode
      split_ifs at hdecode
      obtain ⟨reason | g, hfault, rfl⟩ := mapError_eq_error_iff.1 hdecode
      · refine .inl ⟨_, rfl, ?_⟩
        simp only [List.append_assoc]
        exact List.append_ne_nil_of_left_ne_nil (by decide) _
      · exact .inr ⟨content, clipped_eq_ok_iff.1 hclipped, hfault⟩
    · cases ht

/-- With the codec of a charset, output that stands for no text is a failure of reading. -/
theorem interpret_eq_error_of_charset {tool : Tool} {cs : Charset}
    (h : tool.readEncoding.codec? = some cs.codec) {stripLineEnd : Bool} {program : Text}
    {output : Bytes} {f : Failure} (hf : tool.interpret stripLineEnd program output = .error f) :
    ∃ details, f = .operation .read details := by
  obtain ⟨details, hdetails, -⟩ | ⟨content, -, hbroken⟩ := interpret_eq_error h hf
  · exact ⟨details, hdetails⟩
  · obtain ⟨reason, hreason⟩ := Charset.refused_of_decode_codec hbroken
    cases hreason

end Tool

/-- The value that a text is handed over as, `null` for none. -/
def Value.ofText? : Option Text → Value
  | none => .null
  | some t => .text t

theorem Value.ofText?_inj {u v : Option Text} (h : Value.ofText? u = .ofText? v) : u = v := by
  cases u <;> cases v <;> cases h <;> rfl

namespace Request

/-- The octets that a request hands over to a command of a tool; reading hands over nothing. -/
def input (tool : Tool) : Request → Except Failure (Option Bytes)
  | copy t => some <$> tool.encode t
  | read => .ok none

/-- What a request makes of the output of its command. -/
def result (tool : Tool) (stripLineEnd : Bool) (program : Text) (output : Bytes) :
    Request → Except Failure Value
  | copy _ => .ok .null
  | read => .text <$> tool.interpret stripLineEnd program output

end Request

/-! ### Runs -/

/-- A time that cannot be told is no failure of a clipboard. -/
theorem Value.isTagged_of_brief {v : Value} {f : Failure} (h : v.brief = .error f) :
    f.isTagged = false := by
  rw [brief] at h
  rcases hnumber : v.number? with _ | x
  · rw [hnumber] at h
    cases h
    cases v <;> rfl
  · rw [hnumber] at h
    cases h

theorem Ending.outcome_eq_ok_iff {ending : Ending} {program : Text} {op : Operation}
    {timeout : Value} {output : Bytes} :
    ending.outcome program op timeout = .ok output ↔
      ∃ errors, ending = .exited 0 output errors := by
  constructor
  · intro h
    rw [outcome.eq_def] at h
    split at h
    · next status printed errors =>
      split_ifs at h with hstatus
      cases h
      exact ⟨errors, by rw [hstatus]⟩
    · obtain ⟨seconds, -, h⟩ := bind_eq_ok_iff.1 h
      cases h
    · cases h
    · cases h
    · cases h
  · rintro ⟨errors, rfl⟩
    rfl

/-- A run that fails is a failure of the operation, or one that is not of a clipboard, or one that
the run itself has ended with. -/
theorem Ending.outcome_eq_error {ending : Ending} {program : Text} {op : Operation}
    {timeout : Value} {f : Failure} (h : ending.outcome program op timeout = .error f) :
    (∃ details, f = .operation op details) ∨ f.isTagged = false ∨ ending = .failed f := by
  rw [outcome.eq_def] at h
  split at h
  · split_ifs at h
    cases h
    exact .inl ⟨_, rfl⟩
  · -- the command took too long, and its time may be none that can be told
    obtain hbrief | ⟨seconds, -, hseconds⟩ := bind_eq_error_iff.1 h
    · exact .inr (.inl (Value.isTagged_of_brief hbrief))
    · cases hseconds
      exact .inl ⟨_, rfl⟩
  · cases h
    exact .inl ⟨_, rfl⟩
  · cases h
    exact .inr (.inr rfl)
  · cases h
    exact .inr (.inl rfl)

/-- The runs that a run adds to those of a host: itself, if it was to be started at all. -/
def Host.started (host : Host β) (r : Run) : List Run :=
  if (host.programs.run host.environment r host.disk).1.isRun then [r] else []

/-- The host after a run that was announced. -/
def Host.ran (host : Host β) (program : Text) (op : Operation) (r : Run) : Host β :=
  { host with
    runs := host.runs ++ host.started r
    disk := (host.programs.run host.environment r host.disk).2
    notices := host.notices ++ [.running program op] }

/-- No run of a program ends with a failure that has the tag of a clipboard failure; neither a
command that takes too long nor what the operating system reports has one. -/
def Programs.Untagged (programs : Programs) : Prop :=
  ∀ environment run disk f, (programs.run environment run disk).1 = .failed f → f.isTagged = false

namespace Tool

/-- The run of a command of the tool in the environment of the host. -/
def runOn (tool : Tool) (host : Host β) (op : Operation) (timeout : Value)
    (input : Option Bytes) : Run :=
  tool.runOf op timeout host.environment input

/-- How a run of a command of the tool ends on the host. -/
def ending (tool : Tool) (host : Host β) (op : Operation) (timeout : Value)
    (input : Option Bytes) : Ending :=
  (host.programs.run host.environment (tool.runOn host op timeout input) host.disk).1

/-- A run whose ending is known to have been that of a command was started. -/
theorem started_runOn {tool : Tool} {host : Host β} {op : Operation} {timeout : Value}
    {input : Option Bytes} (h : (tool.ending host op timeout input).isRun = true) :
    host.started (tool.runOn host op timeout input) = [tool.runOn host op timeout input] :=
  if_pos h

theorem start_runCommand {tool : Tool} {op : Operation} {program : Text} {words : List Text}
    (hcommand : tool.command op = program :: words) (timeout : Value) (input : Option Bytes)
    (host : Host β) :
    (tool.runCommand op timeout input).start host =
      (((tool.ending host op timeout input).outcome program op timeout).map (program, ·),
        host.ran program op (tool.runOn host op timeout input)) := by
  have hstart : (tool.runCommand op timeout input).start host =
      (do
        let output ← Action.ofResult
          ((tool.ending host op timeout input).outcome program op timeout)
        pure (program, output) : Action (Host β) (Text × Bytes)).start
        (host.ran program op (tool.runOn host op timeout input)) := by
    rw [runCommand, hcommand]
    rfl
  rw [hstart, Action.start_bind, Action.start_ofResult]
  rcases (tool.ending host op timeout input).outcome program op timeout with f | output <;> rfl

/-- **A request is one run of the tool**, or none if it has nothing to hand over. -/
theorem start_hook {tool : Tool} {r : Request} {program : Text} {words : List Text}
    (hcommand : tool.command r.operation = program :: words) (timeout : Value)
    (stripLineEnd : Bool) (host : Host β) :
    (r.hook (tool.hooks timeout stripLineEnd)).start host =
      match r.input tool with
      | .error f => (.error f, host)
      | .ok input =>
        ((tool.ending host r.operation timeout input).outcome program r.operation timeout >>=
            r.result tool stripLineEnd program,
          host.ran program r.operation (tool.runOn host r.operation timeout input)) := by
  cases r with
  | copy t =>
    simp only [Request.operation] at hcommand ⊢
    simp only [Request.hook, hooks, Request.input, Action.start_bind, Action.start_ofResult]
    rcases tool.encode t with f | input
    · rfl
    · dsimp only [Functor.map, Except.map]
      rw [start_runCommand hcommand]
      rcases (tool.ending host .copy timeout (some input)).outcome program .copy timeout <;> rfl
  | read =>
    simp only [Request.operation] at hcommand ⊢
    simp only [Request.hook, hooks, Request.input, Action.start_bind, Action.start_ofResult]
    rw [start_runCommand hcommand]
    rcases (tool.ending host .read timeout none).outcome program .read timeout with f | output
    · rfl
    · simp only [Except.map, Request.result, bind, Except.bind]
      rcases tool.interpret stripLineEnd program output <;> rfl

/-- The run of a request does what is asked for: it ends with status zero, and it was handed the
octets of the text that is to be copied, or has printed those of a text. What is handed over is that
text, without a line end if that is asked for. -/
inductive Serves (tool : Tool) (host : Host β) (timeout : Value) (stripLineEnd : Bool) :
    Request → Option Text → Prop
  | copied {t : Text} {input output errors : Bytes} (plain : t.hasSurrogate = false)
      (encode : Charset.utf8.encode t = .ok input)
      (run : tool.ending host .copy timeout (some input) = .exited 0 output errors) :
      Serves tool host timeout stripLineEnd (.copy t) none
  | handedOver {t u : Text} {content errors : Bytes}
      (run : tool.ending host .read timeout none = .exited 0 (tool.printed content) errors)
      (encode : Charset.utf8.encode t = .ok content) (delivers : t.Delivers stripLineEnd u) :
      Serves tool host timeout stripLineEnd .read (some u)

/-- **A request succeeds exactly if its run does what is asked for.** -/
theorem start_hook_eq_ok_iff {tool : Tool} (h : tool.Listed) {r : Request} {timeout : Value}
    {stripLineEnd : Bool} {host : Host β} {v : Value} :
    ((r.hook (tool.hooks timeout stripLineEnd)).start host).1 = .ok v ↔
      ∃ u, tool.Serves host timeout stripLineEnd r u ∧ v = .ofText? u := by
  obtain ⟨program, words, hcommand⟩ := h.exists_program r.operation
  rw [start_hook hcommand]
  cases r with
  | copy t =>
    rw [Request.input, encode_of_charset h.writeCodec]
    rcases hencode : Charset.utf8.encode t with fault | input
    · refine iff_of_false nofun ?_
      rintro ⟨_, hserves, -⟩
      cases hserves with
      | copied _ hinput _ =>
        rw [hencode] at hinput
        cases hinput
    · simp only [Except.mapError, Functor.map, Except.map, bind_eq_ok_iff,
        Ending.outcome_eq_ok_iff, Request.result, Request.operation]
      constructor
      · rintro ⟨output, ⟨errors, hending⟩, hv⟩
        cases hv
        exact ⟨none, .copied (Charset.encode_utf8_eq_ok_iff.1 hencode).1 hencode hending, rfl⟩
      · rintro ⟨_, hserves, rfl⟩
        cases hserves with
        | copied _ hinput hending =>
          rw [hencode] at hinput
          cases hinput
          exact ⟨_, ⟨_, hending⟩, rfl⟩
  | read =>
    simp only [Request.input, bind_eq_ok_iff, Ending.outcome_eq_ok_iff, Request.result,
      Request.operation, map_eq_ok_iff, interpret_eq_ok_iff h.readCodec]
    constructor
    · rintro ⟨output, ⟨errors, hending⟩, u, ⟨content, t, hencode, rfl, hdelivers⟩, rfl⟩
      exact ⟨some u, .handedOver hending hencode hdelivers, rfl⟩
    · rintro ⟨_, hserves, rfl⟩
      cases hserves with
      | handedOver hending hencode hdelivers =>
        exact ⟨_, ⟨_, hending⟩, _, ⟨_, _, hencode, rfl, hdelivers⟩, rfl⟩

/-- **A request that fails is a failure of its operation**, where no run has ended with a tag of its
own. -/
theorem asOperation_of_start_hook {tool : Tool} (h : tool.Listed) {r : Request} {timeout : Value}
    {stripLineEnd : Bool} {host : Host β} (huntagged : host.programs.Untagged) {f : Failure}
    (hf : ((r.hook (tool.hooks timeout stripLineEnd)).start host).1 = .error f) :
    ∃ details, f.asOperation r.operation = .operation r.operation details := by
  have hkept : ∀ details, (Failure.operation r.operation details).asOperation r.operation =
      .operation r.operation details := fun _ => rfl
  obtain ⟨program, words, hcommand⟩ := h.exists_program r.operation
  rw [start_hook hcommand] at hf
  rcases hinput : r.input tool with g | input
  · -- the text to be copied has no octets
    rw [hinput] at hf
    cases hf
    cases r with
    | copy t =>
      rw [Request.input, map_eq_error_iff, encode_of_charset h.writeCodec,
        mapError_eq_error_iff] at hinput
      obtain ⟨fault, -, rfl⟩ := hinput
      exact ⟨_, hkept _⟩
    | read => cases hinput
  · rw [hinput] at hf
    dsimp only at hf
    obtain hout | ⟨output, -, hresult⟩ := bind_eq_error_iff.1 hf
    · have hword (huntagged : f.isTagged = false) :
          f.asOperation r.operation = .operation r.operation f.message := by
        rw [Failure.asOperation, huntagged]
        rfl
      obtain ⟨details, rfl⟩ | hother | hfailed := Ending.outcome_eq_error hout
      · exact ⟨_, hkept _⟩
      · exact ⟨_, hword hother⟩
      · exact ⟨_, hword (huntagged _ _ _ _ hfailed)⟩
    · -- the run was fine, and what it has printed is no text
      cases r with
      | copy t => cases hresult
      | read =>
        obtain ⟨details, rfl⟩ :=
          interpret_eq_error_of_charset h.readCodec (map_eq_error_iff.1 hresult)
        exact ⟨_, hkept _⟩

end Tool

/-! ### The clipboard of the host -/

namespace SystemClipboard

/-- The backend and the tool that the clipboard goes by in some surroundings. -/
def choice (clipboard : SystemClipboard) (around : Surroundings) :
    Except Failure (Backend × Tool) := do
  let backend ← clipboard.backend.resolved
  let tool ← Tool.resolve around backend
  pure (backend, tool)

theorem choice_eq_ok_iff {clipboard : SystemClipboard} {around : Surroundings} {backend : Backend}
    {tool : Tool} :
    clipboard.choice around = .ok (backend, tool) ↔
      clipboard.backend.resolved = .ok backend ∧ Tool.resolve around backend = .ok tool := by
  simp only [choice, bind_eq_ok_iff, pure, Except.pure, Except.ok.injEq, Prod.mk.injEq]
  constructor
  · rintro ⟨_, hbackend, _, htool, rfl, rfl⟩
    exact ⟨hbackend, htool⟩
  · rintro ⟨hbackend, htool⟩
    exact ⟨_, hbackend, _, htool, rfl, rfl⟩

theorem listed_of_choice {clipboard : SystemClipboard} {around : Surroundings} {backend : Backend}
    {tool : Tool} (h : clipboard.choice around = .ok (backend, tool)) : tool.Listed :=
  Tool.listed_of_resolve (choice_eq_ok_iff.1 h).2

/-- The hooks of the clipboard on a tool. -/
def hooks (clipboard : SystemClipboard) (tool : Tool) : Hooks (Host β) :=
  tool.hooks clipboard.timeout clipboard.stripLineEnd.counts

/-- The host after a handle for a tool has been handed out. -/
def opened (backend : Backend) (tool : Tool) (host : Host β) : Host β :=
  { host with
    notices := host.notices ++ [chosen backend tool] ++ [.handleOpened tool.name] }

theorem start_acquire (clipboard : SystemClipboard) (host : Host β) :
    clipboard.asClipboard.acquire.start host =
      match clipboard.choice host.surroundings with
      | .error f => (.error f, host)
      | .ok (backend, tool) =>
        (.ok { hooks := clipboard.hooks tool }, opened backend tool host) := by
  simp only [asClipboard, acquire, resolve, choice, Action.start_map, Action.start_bind,
    Action.start_ask, Action.start_ofResult, Surroundings.replacing_none]
  rcases clipboard.backend.resolved with f | backend
  · rfl
  · dsimp only [bind, Except.bind]
    rcases Tool.resolve host.surroundings backend with f | tool <;> rfl

/-- **The course of a transfer on the clipboard of the host.** Whether a tool can be chosen decides
whether a handle is had; the handle is open, and releasing it does nothing but send a notice. -/
theorem course_asClipboard (clipboard : SystemClipboard) (r : Request) (host : Host β) :
    clipboard.asClipboard.course r host =
      match clipboard.choice host.surroundings with
      | .error f => .unreached f host
      | .ok (backend, tool) =>
        let served := (r.hook (clipboard.hooks tool)).start (opened backend tool host)
        .served served.1 (.ok ()) { served.2 with
          notices := served.2.notices ++ [.handleReleased tool.name] } := by
  rw [Clipboard.course, start_acquire]
  rcases clipboard.choice host.surroundings with f | ⟨backend, tool⟩ <;> rfl

/-- The runs of a transfer: that of its request, if a tool can be chosen, there is something to hand
over, and the run is started. -/
def runsOf (clipboard : SystemClipboard) (r : Request) (host : Host β) : List Run :=
  match clipboard.choice host.surroundings with
  | .error _ => []
  | .ok (_, tool) =>
    match r.input tool with
    | .error _ => []
    | .ok input => host.started (tool.runOn host r.operation clipboard.timeout input)

/-- **What runs in a transfer** is at most one command, of the tool that is chosen at that time, and
it has the time of the clipboard. -/
theorem runs_course (clipboard : SystemClipboard) (r : Request) (host : Host β) :
    (clipboard.asClipboard.course r host).state.runs = host.runs ++ clipboard.runsOf r host := by
  rw [course_asClipboard, runsOf]
  rcases hchoice : clipboard.choice host.surroundings with f | ⟨backend, tool⟩
  · exact (List.append_nil _).symm
  · obtain ⟨program, words, hcommand⟩ := (listed_of_choice hchoice).exists_program r.operation
    dsimp only [Course.state]
    rw [hooks, Tool.start_hook hcommand]
    rcases r.input tool with f | input
    · exact (List.append_nil _).symm
    · rfl

end SystemClipboard

/-- What a request needs is the same before and after a handle is handed out for it. -/
theorem Tool.serves_opened_iff (tool : Tool) (backend : Backend) (host : Host β)
    (timeout : Value) (stripLineEnd : Bool) (r : Request) (v : Option Text) :
    tool.Serves (SystemClipboard.opened backend tool host) timeout stripLineEnd r v ↔
      tool.Serves host timeout stripLineEnd r v := by
  constructor <;>
    · rintro (⟨plain, encode, run⟩ | ⟨run, encode, delivers⟩)
      · exact .copied plain encode run
      · exact .handedOver run encode delivers

end Pasteboard
