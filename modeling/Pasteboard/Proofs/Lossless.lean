import Pasteboard.Proofs.ByteCell

/-!
# Reading loses nothing

The output of a paste command is read as a text exactly if the copy command would be handed the same
octets for that text (`Call.gets_iff_sends`), whichever of the four charsets the tool speaks
(`Tool.Speaks`) and whatever text or output it is. So no two outputs are read as the same text, and
output that no text is written as is a failure of reading, not a text that is close to it.

Both directions are `Charset.decode_eq_ok_iff`; what is added here is that a call on a handle hands
over the octets of its text and nothing else (`Call.sends_iff`), and takes all of the output but the
line feed that the tool puts at its end (`Call.gets_iff`).
-/

namespace Pasteboard

variable {β : Type}

namespace Tool

/-- The tool writes and reads the charset, under whatever names, and each of its commands starts a
program. -/
structure Speaks (tool : Tool) (cs : Charset) : Prop where
  writes : tool.writeEncoding.codec? = some cs.codec
  reads : tool.readEncoding.codec? = some cs.codec
  starts : ∀ op, ∃ program words, tool.command op = program :: words

variable {tool : Tool}

/-- What a tool prints tells what the clipboard holds. -/
theorem printed_inj {content content' : Bytes} :
    tool.printed content = tool.printed content' ↔ content = content' := by
  rw [printed, printed]
  split_ifs
  · exact List.append_left_inj _
  · exact Iff.rfl

end Tool

namespace Call

variable {tool : Tool} {cs : Charset} {timeout : Value} {stripLineEnd : Bool} {t : Text}
  {content output errors : Bytes} {host : Host β}

/-- On this host the call is one run of the copy command, which is handed these octets. -/
def Sends (call : Call) (tool : Tool) (host : Host β) (content : Bytes) : Prop :=
  ((call.perform tool).start host).2.runs =
    host.runs ++ [tool.runOn host .copy call.timeout (some content)]

/-- **What is handed over for a text are its octets.** -/
theorem sends_iff (h : tool.Speaks cs)
    (hstarts : ∀ input, (tool.ending host .copy timeout (some input)).isRun = true) :
    (⟨timeout, stripLineEnd, .copy t⟩ : Call).Sends tool host content ↔
      cs.encode t = .ok content := by
  obtain ⟨program, words, hcommand⟩ := h.starts (Request.copy t).operation
  rw [Sends, perform_eq, Tool.start_hook hcommand, Request.input,
    Tool.encode_of_charset h.writes]
  rcases cs.encode t with fault | input
  · -- a text without octets is refused before any program is run
    have hnone : host.runs ≠ host.runs ++ [tool.runOn host .copy timeout (some content)] := by
      simp
    exact iff_of_false hnone (by rintro ⟨⟩)
  · have hinput : tool.runOn host .copy timeout (some input) =
        tool.runOn host .copy timeout (some content) ↔ input = content := by
      simp [Tool.runOn, Tool.runOf]
    change host.runs ++ host.started (tool.runOn host .copy timeout (some input)) =
      host.runs ++ [tool.runOn host .copy timeout (some content)] ↔ _
    rw [Tool.started_runOn (hstarts input), List.append_right_inj, List.singleton_inj, hinput,
      Except.ok.injEq]

/-- How a call ends that gets a text, if its run prints something and all is well with it. -/
theorem fst_start_get {program : Text} {words : List Text}
    (hcommand : tool.command .read = program :: words)
    (hrun : tool.ending host .read timeout none = .exited 0 output errors) :
    (((⟨timeout, stripLineEnd, .read⟩ : Call).perform tool).start host).1 =
      .text <$> tool.interpret stripLineEnd program output := by
  have hread : tool.command Request.read.operation = program :: words := hcommand
  rw [perform_eq, Tool.start_hook hread]
  dsimp only [Request.input, Request.operation]
  rw [hrun]
  rfl

/-- **What is got is the text whose octets were printed.** -/
theorem gets_iff (h : tool.Speaks cs)
    (hrun : tool.ending host .read timeout none = .exited 0 output errors) :
    (((⟨timeout, false, .read⟩ : Call).perform tool).start host).1 = .ok (.text t) ↔
      ∃ content, cs.encode t = .ok content ∧ output = tool.printed content := by
  obtain ⟨program, words, hcommand⟩ := h.starts .read
  have hwhole : ∀ u, Text.Delivers false u t ↔ u = t := fun u => eq_comm
  rw [fst_start_get hcommand hrun, map_eq_ok_iff]
  simp only [Value.text.injEq, exists_eq_right', Tool.interpret_eq_ok_iff h.reads, hwhole]
  constructor
  · rintro ⟨content, u, hencode, houtput, rfl⟩
    exact ⟨content, hencode, houtput⟩
  · rintro ⟨content, hencode, houtput⟩
    exact ⟨content, t, hencode, houtput, rfl⟩

/-- A call that gets nothing from what was printed is a failure of reading. -/
theorem gets_or_fails (h : tool.Speaks cs)
    (hrun : tool.ending host .read timeout none = .exited 0 output errors) :
    (∃ u, (((⟨timeout, false, .read⟩ : Call).perform tool).start host).1 = .ok (.text u)) ∨
      ∃ details, (((⟨timeout, false, .read⟩ : Call).perform tool).start host).1 =
        .error (.operation .read details) := by
  obtain ⟨program, words, hcommand⟩ := h.starts .read
  rw [fst_start_get hcommand hrun]
  rcases hinterpret : tool.interpret false program output with f | u
  · obtain ⟨details, rfl⟩ := Tool.interpret_eq_error_of_charset h.reads hinterpret
    exact .inr ⟨details, rfl⟩
  · exact .inl ⟨u, rfl⟩

/-- **Reading gets what setting would send.** A tool speaks one charset, its paste command has
printed some output, and a handle that drops no line end reads it. `elsewhere` is any host on which
runs of the copy command are started, and on which texts are set through the same handle.

* If the output is what is printed for some octets, then the text that is got is the one for which
  exactly these octets are sent.
* If the output is not what is printed for the octets of any text, reading fails.
* Another output is never read as the same text.
* A text is sent exactly if the charset has all its code points. -/
theorem gets_iff_sends (h : tool.Speaks cs)
    (hrun : tool.ending host .read timeout none = .exited 0 output errors) {elsewhere : Host β}
    (hstarts : ∀ input, (tool.ending elsewhere .copy timeout (some input)).isRun = true) :
    let setting (t : Text) : Call := ⟨timeout, false, .copy t⟩
    let got (host : Host β) := (((⟨timeout, false, .read⟩ : Call).perform tool).start host).1
    (∀ t content, output = tool.printed content →
        ((setting t).Sends tool elsewhere content ↔ got host = .ok (.text t))) ∧
      ((∀ t content, (setting t).Sends tool elsewhere content → output ≠ tool.printed content) →
        ∃ details, got host = .error (.operation .read details)) ∧
      (∀ (other : Host β) (output' errors' : Bytes) (t : Text),
        tool.ending other .read timeout none = .exited 0 output' errors' →
        got host = .ok (.text t) → got other = .ok (.text t) → output' = output) ∧
      ∀ t, (∃ content, (setting t).Sends tool elsewhere content) ↔ ∀ c ∈ t, cs.Covers c := by
  intro setting got
  have hsends : ∀ t content,
      (setting t).Sends tool elsewhere content ↔ cs.encode t = .ok content :=
    fun t content => sends_iff h hstarts
  refine ⟨fun t content houtput => ?_, fun hnone => ?_, fun other output' errors' t hother hgot
    hgot' => ?_, fun t => ?_⟩
  · have hgot : got host = .ok (.text t) ↔ _ := gets_iff h hrun
    rw [hsends, hgot]
    constructor
    · intro hencode
      exact ⟨content, hencode, houtput⟩
    · rintro ⟨content', hencode, houtput'⟩
      rw [houtput, Tool.printed_inj] at houtput'
      rwa [houtput']
  · refine (gets_or_fails h hrun).resolve_left ?_
    rintro ⟨u, hu⟩
    obtain ⟨content, hencode, houtput⟩ := (gets_iff h hrun).1 hu
    exact hnone u content ((hsends u content).2 hencode) houtput
  · obtain ⟨content, hencode, houtput⟩ := (gets_iff h hrun).1 hgot
    obtain ⟨content', hencode', houtput'⟩ := (gets_iff h hother).1 hgot'
    rw [hencode] at hencode'
    cases hencode'
    rw [houtput, houtput']
  · simp only [hsends, Charset.exists_encode_iff]

/-- What looks like a byte order mark is a part of the text, and the line feed that the tool puts at
the end is none. -/
theorem gets_iff_sends_of_byte_order_mark :
    let tool : Tool := { Tool.pbcopy with
      writeEncoding := .ofCharset .utf16le
      readEncoding := .ofCharset .utf16le }
    let timeout := Value.int 5
    let content : Bytes := [0xff, 0xfe, 0x0a, 0]
    let host : Host Unit := { Host.bare () with
      programs := .scripted ["pbcopy", "osascript"] (.exited 0 (content ++ [10]) []) }
    let t : Text := [⟨0xfeff, by decide⟩, CodePoint.ofChar '\n']
    (tool.Speaks .utf16le ∧
        tool.ending host .read timeout none = .exited 0 (tool.printed content) [] ∧
        ∀ input, (tool.ending host .copy timeout (some input)).isRun = true) ∧
      (⟨timeout, false, .copy t⟩ : Call).Sends tool host content ∧
      (((⟨timeout, false, .read⟩ : Call).perform tool).start host).1 = .ok (.text t) := by
  intro tool timeout content host t
  have hspeaks : tool.Speaks .utf16le := ⟨rfl, rfl, fun op => by cases op <;> exact ⟨_, _, rfl⟩⟩
  have hrun : tool.ending host .read timeout none = .exited 0 (tool.printed content) [] := rfl
  have hstarts : ∀ input, (tool.ending host .copy timeout (some input)).isRun = true :=
    fun _ => rfl
  have hsends : (⟨timeout, false, .copy t⟩ : Call).Sends tool host content := by
    rw [sends_iff hspeaks hstarts]
    decide
  obtain ⟨hgets, -⟩ := gets_iff_sends hspeaks hrun hstarts
  exact ⟨⟨hspeaks, hrun, hstarts⟩, hsends, (hgets t content rfl).1 hsends⟩

end Call

end Pasteboard
