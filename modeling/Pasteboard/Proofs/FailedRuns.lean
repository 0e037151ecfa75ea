import Mathlib.Tactic.IntervalCases
import Pasteboard.Proofs.ByteCell
import Pasteboard.Proofs.Grammar
import Pasteboard.Proofs.HandleRuns
import Pasteboard.Proofs.Mending

/-!
# What a failed call says

A call on an open handle for a tool fails because there is nothing to hand over to the command,
because of how the run of the command ends, or because of what it has printed. Each of these is a
failure of the operation, and it says something unless whoever has refused has given no reason
(`Call.failure_cases`). Two things are not turned into failures of the operation: a codec that
breaks down (`Call.Breaks`), where a codec is only expected to refuse, and files that cannot be had
for what the command prints.

A run that ends with a status other than zero is described by what it has written to its error
output, mended and stripped, or by its status if that is blank (`Ending.describes_complaint`).
Nothing else matters for this, so every call whose run ends in this way fails with the same text
(`Tool.failures_described`).
-/

namespace Pasteboard

variable {β : Type}

/-! ### Wording -/

theorem CodePoint.isBlankOrSeparator_of_isDigit {c : CodePoint} (h : c.isDigit = true) :
    c.isBlankOrSeparator = false := by
  obtain ⟨n, hn⟩ := c
  rw [isDigit, decide_eq_true_eq] at h
  obtain ⟨hlow, hhigh⟩ : 48 ≤ n ∧ n ≤ 57 := h
  interval_cases n <;> rfl

/-- A numeral ends in a digit. -/
theorem Text.exists_ofInt (i : Int) :
    ∃ front d, Text.ofInt i = front ++ [d] ∧ d.isBlankOrSeparator = false := by
  have hdigits : ∀ n, ∃ front d, Text.ofNat n = front ++ [d] ∧ d.isBlankOrSeparator = false := by
    intro n
    have hne : Nat.toDigits 10 n ≠ [] := Nat.toDigits_ne_nil
    refine ⟨(Nat.toDigits 10 n).dropLast.map CodePoint.ofChar,
      CodePoint.ofChar ((Nat.toDigits 10 n).getLast hne), ?_, ?_⟩
    · rw [Text.ofNat, ← List.map_singleton, ← List.map_append, List.dropLast_concat_getLast hne]
    · apply CodePoint.isBlankOrSeparator_of_isDigit
      rw [CodePoint.isDigit_ofChar]
      exact Nat.isDigit_of_mem_toDigits (by decide) (by decide) (List.getLast_mem hne)
  obtain ⟨front, d, hn, hd⟩ := hdigits i.natAbs
  rw [Text.ofInt, hn]
  split_ifs
  · exact ⟨CodePoint.ofChar '-' :: front, d, rfl, hd⟩
  · exact ⟨front, d, rfl, hd⟩

/-- A status is told with a name in front and a digit at the end. -/
theorem Text.bare_status {c : CodePoint} (hc : c.isBlankOrSeparator = false) (name : Text)
    (status : Int) : Bare (c :: name ++ " exited with status " ++ Text.ofInt status) := by
  obtain ⟨front, d, hstatus, hd⟩ := Text.exists_ofInt status
  have hshape : c :: name ++ Text.ofString " exited with status " ++ Text.ofInt status =
      c :: (name ++ Text.ofString " exited with status " ++ front ++ [d]) := by
    rw [hstatus]
    simp only [List.cons_append, List.append_assoc]
  rw [hshape]
  exact bare_between hc hd _

/-! ### What describes a run -/

/-- The first words of the commands of the tool are not empty and do not start with a blank. -/
def Tool.Named (tool : Tool) : Prop :=
  ∀ op, ∀ program ∈ (tool.command op).head?,
    ∃ c name, program = c :: name ∧ c.isBlankOrSeparator = false

namespace Ending

/-- The run is over as that of a native command can be: it has ended by itself, its time has run
out, the operating system has reported an error, or there were no files for what it prints. -/
inductive Native : Ending → Prop
  | exited (status : Int) (output errors : Bytes) : Native (.exited status output errors)
  | timeout (text : Text) : Native (.failed (.timeout text))
  | system (e : SystemError) : Native (.failed (.system e))
  | uncollected (started : Bool) (e : SystemError) : Native (.uncollected started e)

/-- What a run of a program is described by that has ended with a status other than zero. The text
is not empty and has no blanks at its ends. It is what was written to the error output, without the
blanks around it; where that is no text, there is a U+FFFD for each part that is none. If nothing
but blanks was written, it names the program and the status. -/
structure Describes (program : Text) (status : Int) (errors : Bytes) (details : Text) : Prop where
  nonempty : details ≠ []
  bare : details.Bare
  wellFormed : ∀ t, Charset.utf8.encode t = .ok errors → ¬ t.Blank → t.Stripped details
  illFormed : (∀ t, Charset.utf8.encode t ≠ .ok errors) →
    ∃ t, Utf8.Mends errors t ∧ t.Stripped details ∧ CodePoint.replacement ∈ details
  silent : ∀ t, Charset.utf8.encode t = .ok errors → t.Blank →
    details = program ++ " exited with status " ++ Text.ofInt status

/-- **A failed run is described**, whatever octets are in its error output. -/
theorem describes_complaint {c : CodePoint} (hc : c.isBlankOrSeparator = false) (name : Text)
    (status : Int) (errors : Bytes) :
    Describes (c :: name) status errors (complaint (c :: name) status errors) := by
  have hmends : Utf8.Mends errors (Charset.utf8.decodeReplacing errors) := Utf8.mends_iff.2 rfl
  have hread : ∀ t, Charset.utf8.encode t = .ok errors → t = Charset.utf8.decodeReplacing errors :=
    fun t ht => Utf8.mends_iff.1 (Utf8.mends_of_encode ht)
  have hstripped : (Charset.utf8.decodeReplacing errors).Stripped
      (Charset.utf8.decodeReplacing errors).trimmed := Text.stripped_iff.2 rfl
  have hempty := hstripped.eq_nil_iff
  rw [complaint]
  split_ifs with hsaid
  · -- nothing is left of what was written, so it was a text of blanks
    have hblank := hempty.1 (List.isEmpty_iff.1 hsaid)
    refine ⟨List.cons_ne_nil c _, Text.bare_status hc name status, ?_, ?_, fun t ht hb => rfl⟩
    · intro t ht hnot
      rw [hread t ht] at hnot
      exact absurd hblank hnot
    · intro hbad
      have hmark := hblank _ (hmends.replacement_mem hbad)
      cases hmark
  · have hne : (Charset.utf8.decodeReplacing errors).trimmed ≠ [] := mt List.isEmpty_iff.2 hsaid
    refine ⟨hne, hstripped.bare, ?_, ?_, ?_⟩
    · intro t ht _
      rwa [hread t ht]
    · intro hbad
      exact ⟨_, hmends, hstripped, hstripped.mem (hmends.replacement_mem hbad) rfl⟩
    · intro t ht hb
      rw [hread t ht] at hb
      exact absurd (hempty.2 hb) hne

/-- What becomes of a run of a program that has not done what it was for. -/
theorem outcome_eq_error_cases {ending : Ending} (h : ending.Native) {c : CodePoint}
    (hc : c.isBlankOrSeparator = false) {name : Text} {op : Operation} {timeout : Value}
    (hnumber : timeout.number? ≠ none) {f : Failure}
    (hf : ending.outcome (c :: name) op timeout = .error f) :
    (∃ details, f = .operation op details ∧
        (details = [] → ∃ e, ending = .failed (.system e) ∧ e.message = [])) ∨
      ∃ started e, ending = .uncollected started e ∧ f = .system e := by
  cases h with
  | exited status output errors =>
    rw [outcome] at hf
    split_ifs at hf
    cases hf
    have hdescribed := (describes_complaint hc name status errors).nonempty
    exact .inl ⟨_, rfl, fun hnil => absurd hnil hdescribed⟩
  | timeout text =>
    obtain ⟨x, hx⟩ := Option.ne_none_iff_exists'.1 hnumber
    rw [outcome, Value.brief, hx] at hf
    cases hf
    exact .inl ⟨_, rfl, fun hnil => absurd hnil (List.cons_ne_nil c _)⟩
  | system e =>
    cases hf
    exact .inl ⟨_, rfl, fun hnil => ⟨e, rfl, hnil⟩⟩
  | uncollected started e =>
    cases hf
    exact .inr ⟨started, e, rfl, rfl⟩

end Ending

/-! ### What a call says -/

namespace Call

variable {tool : Tool} {call : Call} {host : Host β}

/-- The call makes a run on the host, and this is how it ends. -/
def Ends (call : Call) (tool : Tool) (host : Host β) (ending : Ending) : Prop :=
  ∃ input, call.request.input tool = .ok input ∧
    tool.ending host call.request.operation call.timeout input = ending

/-- A codec of the tool breaks down in the call, with this failure: on the text that is to be
copied, or on what the paste command has printed. -/
inductive Breaks (call : Call) (tool : Tool) (host : Host β) (f : Failure) : Prop
  | encoding {t : Text} {codec : Codec} (request : call.request = .copy t)
      (known : tool.writeEncoding.codec? = some codec)
      (broken : codec.encode t = .error (.broken f))
  | decoding {content errors : Bytes} {codec : Codec} (request : call.request = .read)
      (ends : call.Ends tool host (.exited 0 (tool.printed content) errors))
      (known : tool.readEncoding.codec? = some codec)
      (broken : codec.decode content = .error (.broken f))

/-- What makes the call fail has given no reason: the operating system, or the codec that refuses
the text that is to be copied. -/
inductive Unexplained (call : Call) (tool : Tool) (host : Host β) : Prop
  | system {e : SystemError} (ends : call.Ends tool host (.failed (.system e)))
      (silent : e.message = [])
  | encoding {t : Text} {codec : Codec} (request : call.request = .copy t)
      (known : tool.writeEncoding.codec? = some codec)
      (silent : codec.encode t = .error (.refused []))

/-- There is nothing to hand over to the command: its codec refuses the text, or it breaks down. -/
theorem cases_of_input_error (h : tool.Complete) {f : Failure}
    (hinput : call.request.input tool = .error f) :
    (∃ details, f = .operation call.request.operation details ∧
        (details = [] → call.Unexplained tool host)) ∨
      call.Breaks tool host f := by
  obtain ⟨codec, hcodec⟩ := h.writes
  rcases hrequest : call.request with t | _
  · rw [hrequest, Request.input, map_eq_error_iff, Tool.encode_of_codec hcodec,
      mapError_eq_error_iff] at hinput
    obtain ⟨reason | g, hfault, rfl⟩ := hinput
    · refine .inl ⟨reason, rfl, ?_⟩
      rintro rfl
      exact .encoding hrequest hcodec hfault
    · exact .inr (.encoding hrequest hcodec hfault)
  · rw [hrequest] at hinput
    cases hinput

/-- The run was fine, so only what it has printed can be to blame. -/
theorem cases_of_result_error (h : tool.Complete) {program : Text} {output errors : Bytes}
    {stripLineEnd : Bool} {f : Failure}
    (hends : call.Ends tool host (.exited 0 output errors))
    (hresult : call.request.result tool stripLineEnd program output = .error f) :
    (∃ details, f = .operation call.request.operation details ∧ details ≠ []) ∨
      call.Breaks tool host f := by
  obtain ⟨codec, hcodec⟩ := h.reads
  rcases hrequest : call.request with t | _
  · rw [hrequest] at hresult
    cases hresult
  · rw [hrequest, Request.result, map_eq_error_iff] at hresult
    obtain ⟨details, rfl, hdetails⟩ | ⟨content, rfl, hbroken⟩ :=
      Tool.interpret_eq_error hcodec hresult
    · exact .inl ⟨details, rfl, hdetails⟩
    · exact .inr (.decoding hrequest hends hcodec hbroken)

/-- **How a call fails.** It is a failure of its operation, and it says something if there is a
reason; or a codec breaks down, or there are no files for what the command prints. -/
theorem failure_cases (h : tool.Complete) (hnamed : tool.Named)
    (hnumber : call.timeout.number? ≠ none)
    (hnative : ∀ ending, call.Ends tool host ending → ending.Native) {f : Failure}
    (hf : ((call.perform tool).start host).1 = .error f) :
    (∃ details, f = .operation call.request.operation details ∧
        (details = [] → call.Unexplained tool host)) ∨
      call.Breaks tool host f ∨
      ∃ started e, call.Ends tool host (.uncollected started e) ∧ f = .system e := by
  obtain ⟨program, words, hcommand⟩ := List.exists_cons_of_ne_nil (h.starts call.request.operation)
  obtain ⟨c, name, rfl, hc⟩ := hnamed call.request.operation program (by rw [hcommand]; rfl)
  rw [perform_eq, Tool.start_hook hcommand] at hf
  rcases hinput : call.request.input tool with g | input
  · rw [hinput] at hf
    cases hf
    exact (cases_of_input_error h hinput).imp_right .inl
  · rw [hinput] at hf
    have hends : call.Ends tool host (tool.ending host call.request.operation call.timeout input) :=
      ⟨input, hinput, rfl⟩
    -- the run is to blame, or it was fine and what it has printed is
    obtain houtcome | ⟨output, hok, hresult⟩ := bind_eq_error_iff.1 hf
    · obtain ⟨details, rfl, hdetails⟩ | ⟨started, e, hending, rfl⟩ :=
        Ending.outcome_eq_error_cases (hnative _ hends) hc hnumber houtcome
      · refine .inl ⟨details, rfl, fun hnil => ?_⟩
        obtain ⟨e, hsystem, he⟩ := hdetails hnil
        exact .system (hsystem ▸ hends) he
      · exact .inr (.inr ⟨started, e, hending ▸ hends, rfl⟩)
    · obtain ⟨errors, hexited⟩ := Ending.outcome_eq_ok_iff.1 hok
      obtain ⟨details, hoperation, hdetails⟩ | hbroken :=
        cases_of_result_error h (hexited ▸ hends) hresult
      · exact .inl ⟨details, hoperation, fun hnil => absurd hnil hdetails⟩
      · exact .inr (.inl hbroken)

/-- A call whose run ends with a status other than zero fails with what describes that run. -/
theorem fst_start_of_exited {program : Text} {words : List Text}
    (hcommand : tool.command call.request.operation = program :: words) {status : Int}
    {output errors : Bytes} (hstatus : status ≠ 0)
    (hends : call.Ends tool host (.exited status output errors)) :
    ((call.perform tool).start host).1 =
      .error (.operation call.request.operation (Ending.complaint program status errors)) := by
  obtain ⟨input, hinput, hending⟩ := hends
  rw [perform_eq, Tool.start_hook hcommand, hinput]
  dsimp only
  rw [hending, Ending.outcome, if_neg hstatus]
  rfl

/-- The codecs of charsets never break down, and they give a reason for whatever they refuse. -/
theorem described_of_charsets {cs cs' : Charset}
    (hwrites : tool.writeEncoding.codec? = some cs.codec)
    (hreads : tool.readEncoding.codec? = some cs'.codec) (f : Failure) :
    ¬ call.Breaks tool host f ∧
      (call.Unexplained tool host → ∃ e, call.Ends tool host (.failed (.system e)) ∧
        e.message = []) := by
  have hwriting : ∀ {codec : Codec} {t : Text} {fault : CodecFault},
      tool.writeEncoding.codec? = some codec → codec.encode t = .error fault →
        ∃ reason, reason ≠ [] ∧ fault = .refused reason := by
    intro codec t fault hknown hfault
    rw [hwrites] at hknown
    cases hknown
    exact Charset.refused_of_encode_codec hfault
  constructor
  · rintro (⟨-, hknown, hbroken⟩ | ⟨-, -, hknown, hbroken⟩)
    · obtain ⟨reason, -, hreason⟩ := hwriting hknown hbroken
      cases hreason
    · rw [hreads] at hknown
      cases hknown
      obtain ⟨reason, hreason⟩ := Charset.refused_of_decode_codec hbroken
      cases hreason
  · rintro (⟨hends, hsilent⟩ | ⟨-, hknown, hsilent⟩)
    · exact ⟨_, hends, hsilent⟩
    · obtain ⟨reason, hne, hreason⟩ := hwriting hknown hsilent
      cases hreason
      exact absurd rfl hne

end Call

/-- **How failed calls are tagged and described.** Calls are made on open handles for a tool with
codecs of any kind whose commands start with names, on hosts where runs end as those of native
commands can.

* A call that fails is a failure of its operation, and it says something unless the operating system
  or the codec has given no reason, but for two cases: a codec has broken down, or there were no
  files for what the command prints. Codecs of charsets never break down and always give a reason.
* For each operation, and each status other than zero and each error output that its run may end
  with, there is one text that describes the run, and a call whose run ends in this way fails with
  that text, whatever else the run has printed. -/
theorem Tool.failures_described {tool : Tool} (h : tool.Complete) (hnamed : tool.Named) :
    (∀ (call : Call) (host : Host β) (f : Failure), call.timeout.number? ≠ none →
        (∀ ending, call.Ends tool host ending → ending.Native) →
        ((call.perform tool).start host).1 = .error f →
        ((∃ details, f = .operation call.request.operation details ∧
            (details = [] → call.Unexplained tool host)) ∨
          call.Breaks tool host f ∨
          ∃ started e, call.Ends tool host (.uncollected started e) ∧ f = .system e) ∧
        ∀ cs cs' : Charset, tool.writeEncoding.codec? = some cs.codec →
          tool.readEncoding.codec? = some cs'.codec →
          ¬ call.Breaks tool host f ∧ (call.Unexplained tool host →
            ∃ e, call.Ends tool host (.failed (.system e)) ∧ e.message = [])) ∧
      ∀ (op : Operation) (status : Int) (errors : Bytes), status ≠ 0 →
        ∃ program words details, tool.command op = program :: words ∧
          Ending.Describes program status errors details ∧
          ∀ (call : Call) (host : Host β) (output : Bytes), call.request.operation = op →
            call.Ends tool host (.exited status output errors) →
            ((call.perform tool).start host).1 = .error (.operation op details) := by
  refine ⟨fun call host f hnumber hnative hf => ⟨call.failure_cases h hnamed hnumber hnative hf,
    fun cs cs' hwrites hreads => Call.described_of_charsets hwrites hreads f⟩, ?_⟩
  intro op status errors hstatus
  obtain ⟨program, words, hcommand⟩ := List.exists_cons_of_ne_nil (h.starts op)
  obtain ⟨c, name, rfl, hc⟩ := hnamed op program (by rw [hcommand]; rfl)
  refine ⟨_, words, _, hcommand, Ending.describes_complaint hc name status errors, ?_⟩
  rintro call host output rfl hends
  exact Call.fst_start_of_exited hcommand hstatus hends

/-- A paste command is ended by a signal and has written two broken pieces of code points on two
lines, with blanks around them, and a copy command runs out of time. -/
theorem Tool.failures_described_of_broken_pieces :
    let tool : Tool := { Tool.xclip with
      copyCommand := ["put"]
      pasteCommand := ["show", "-x"]
      writeEncoding := .ofCharset .latin1 }
    let errors : Bytes := [0x20, 0xe2, 0x82, 0x0a, 0xff, 0x1c]
    let late : Ending := .failed (.timeout [])
    let host (ending : Ending) : Host Unit :=
      { Host.bare () with programs := .scripted [] ending }
    let read : Call := ⟨.float (Binary64.ofInt 5), true, .read⟩
    let copy : Call := ⟨.float (Binary64.ofInt 5), false, .copy "é"⟩
    (tool.Complete ∧ tool.Named) ∧
      (∀ output, ((read.perform tool).start (host (.exited (-9) output errors))).1 =
        .error (.operation .read
          [CodePoint.replacement, CodePoint.ofChar '\n', CodePoint.replacement])) ∧
      ∃ details, details ≠ [] ∧
        ((copy.perform tool).start (host late)).1 = .error (.operation .copy details) := by
  intro tool errors late host read copy
  have hcomplete : tool.Complete :=
    ⟨fun op => by cases op <;> exact nofun, ⟨_, rfl⟩, ⟨_, rfl⟩⟩
  have hnamed : tool.Named := by
    intro op program hprogram
    cases op <;> cases hprogram <;> exact ⟨_, _, rfl, rfl⟩
  obtain ⟨htagged, hdescribed⟩ := failures_described (β := Unit) hcomplete hnamed
  refine ⟨⟨hcomplete, hnamed⟩, ?_, ?_⟩
  · obtain ⟨program, words, details, -, hdetails, hcalls⟩ :=
      hdescribed .read (-9) errors (by decide)
    have hbad : ∀ t, Charset.utf8.encode t ≠ .ok errors := by
      intro t ht
      have hdecode := Charset.decode_eq_ok_iff.2 ht
      cases hdecode
    obtain ⟨t, hmends, hstripped, -⟩ := hdetails.illFormed hbad
    have hread : details =
        [CodePoint.replacement, CodePoint.ofChar '\n', CodePoint.replacement] := by
      rw [Text.stripped_iff.1 hstripped, Utf8.mends_iff.1 hmends]
      decide
    rw [hread] at hcalls
    exact fun output => hcalls read _ output rfl ⟨none, rfl, rfl⟩
  · have hends : ∀ ending, copy.Ends tool (host late) ending → ending = .failed (.timeout []) := by
      rintro _ ⟨input, -, rfl⟩
      rfl
    obtain ⟨hcases, hcharsets⟩ := htagged copy (host late) _ nofun
      (fun ending hending => by rw [hends ending hending]; exact .timeout []) rfl
    obtain ⟨hunbroken, hexplained⟩ := hcharsets .latin1 .utf8 rfl rfl
    obtain ⟨details, hf, hdetails⟩ | hbroken | ⟨_, _, hfiles, -⟩ := hcases
    · refine ⟨details, fun hnil => ?_, congrArg Except.error hf⟩
      obtain ⟨e, hsystem, -⟩ := hexplained (hdetails hnil)
      cases hends _ hsystem
    · exact absurd hbroken hunbroken
    · cases hends _ hfiles

/-- There is a codec of the name that the tool gives, and it breaks down on every text. The failure
of a call that copies one is none of a clipboard, and no program has been run. -/
theorem Tool.untagged_failure_of_broken_codec :
    let tool : Tool := { Tool.xclip with writeEncoding := .ofName "undefined" }
    let host : Host Unit := { Host.bare () with programs := .scripted [] (.exited 0 [] []) }
    let copy : Call := ⟨.float (Binary64.ofInt 5), false, .copy "x"⟩
    let ended := (copy.perform tool).start host
    let f : Failure := .other "UnicodeError"
      (some "encoding with 'undefined' codec failed (UnicodeError: undefined encoding)")
    (tool.Complete ∧ tool.Named) ∧ ended.1 = .error f ∧ f.isClipboard = false ∧
      ended.2.runs = [] := by
  intro tool host copy ended f
  have hcomplete : tool.Complete :=
    ⟨fun op => by cases op <;> exact nofun, ⟨_, rfl⟩, ⟨_, rfl⟩⟩
  have hnamed : tool.Named := by
    intro op program hprogram
    cases op <;> cases hprogram <;> exact ⟨_, _, rfl, rfl⟩
  have hended : ended.1 = .error f ∧ f.isClipboard = false ∧ ended.2.runs = [] := by
    decide +kernel
  exact ⟨⟨hcomplete, hnamed⟩, hended⟩

end Pasteboard
