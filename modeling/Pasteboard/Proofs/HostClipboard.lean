import Pasteboard.Proofs.Boundary
import Pasteboard.Proofs.Runs

/-!
# Commands on the clipboard of the host

A container without a clipboard of its own uses the clipboard of the host. Its commands always
reply, in one of three ways that are told apart by the tool and its run alone: the request is
served, no tool can be chosen, or anything else goes wrong, which is then a failure of the operation
(`Command.answer_on_host`). What the programs of the host do is left open but for one thing: a run
does not end with the tag of a clipboard failure.
-/

namespace Pasteboard

variable {β : Type}

namespace Command

/-- A failure with the tag for a step is replied to with the lead of that step. -/
theorem verdict_failure (op : Operation) (b : Blame) (details : Text) :
    verdict op (.error (b.failure details)) = .ok ⟨false, none, some (b.lead ++ details)⟩ := by
  rcases b with _ | _ | _ <;> rfl

/-- What a request has been served with is the value of a good reply. -/
theorem verdict_of_serves {tool : Tool} {host : Host β} {timeout : Value} {stripLineEnd : Bool}
    {r : Request} {v : Option Text} (h : tool.Serves host timeout stripLineEnd r v) :
    verdict r.operation (.ok (.ofText? v)) = .ok ⟨true, v, none⟩ := by
  cases h with
  | copied => exact Reply.success_null
  | handedOver => exact Reply.success_text _

end Command

/-- Whatever the reason, a handle that cannot be had is a failure to reach the clipboard. -/
theorem Course.outcome_unreached {σ : Type} (op : Operation) (f : Failure) (s : σ) :
    (Course.unreached f s).outcome op = .error (Blame.reaching.failure f.message) :=
  congrArg Except.error f.asInit_eq_init

namespace SystemClipboard

/-- A tool can be chosen on the host, and its run serves a request with a value. -/
def Serves (clipboard : SystemClipboard) (host : Host β) (r : Request) (v : Option Text) : Prop :=
  ∃ backend tool, clipboard.choice host.surroundings = .ok (backend, tool) ∧
    tool.Serves host clipboard.timeout clipboard.stripLineEnd.counts r v

/-- The step to blame for a failed request: reaching the clipboard if no tool can be chosen, and
else the operation. -/
def Blames (clipboard : SystemClipboard) (host : Host β) (op : Operation) (b : Blame) : Prop :=
  (b = .reaching ↔ ∃ f, clipboard.choice host.surroundings = .error f) ∧
    (b = .doing op ↔ ∃ chosen, clipboard.choice host.surroundings = .ok chosen)

/-- **How a transfer on the clipboard of the host ends.** It hands over what its request is served
with, or the step to blame has failed. -/
theorem outcome_course (clipboard : SystemClipboard) (r : Request) {host : Host β}
    (hrun : host.programs.Untagged) :
    (∀ v, (clipboard.asClipboard.course r host).outcome r.operation = .ok (.ofText? v) ↔
        clipboard.Serves host r v) ∧
      ((∃ v, (clipboard.asClipboard.course r host).outcome r.operation = .ok (.ofText? v)) ∨
        ∃ b details, clipboard.Blames host r.operation b ∧
          (clipboard.asClipboard.course r host).outcome r.operation =
            .error (b.failure details)) := by
  rw [course_asClipboard]
  simp only [Serves, Blames]
  rcases hchoice : clipboard.choice host.surroundings with f | ⟨backend, tool⟩
  · -- no tool, no handle
    rw [Course.outcome_unreached]
    refine ⟨fun v => iff_of_false (by rintro ⟨⟩) (by rintro ⟨backend, tool, ⟨⟩, -⟩),
      .inr ⟨_, _, ?_, rfl⟩⟩
    exact ⟨iff_of_true rfl ⟨f, rfl⟩, iff_of_false (by rintro ⟨⟩) (by rintro ⟨chosen, ⟨⟩⟩)⟩
  · have hlisted := listed_of_choice hchoice
    dsimp only [Course.outcome]
    generalize hhook : (r.hook (clipboard.hooks tool)).start (opened backend tool host) = served
    constructor
    · intro v
      rw [mapError_eq_ok_iff, ← hhook, hooks, Tool.start_hook_eq_ok_iff hlisted]
      simp only [tool.serves_opened_iff]
      constructor
      · rintro ⟨u, h, heq⟩
        exact ⟨backend, tool, rfl, by rwa [Value.ofText?_inj heq]⟩
      · rintro ⟨_, _, ⟨⟩, h⟩
        exact ⟨v, h, rfl⟩
    · rcases hserved : served.1 with f | w
      · have hopened : (opened backend tool host).programs.Untagged := hrun
        obtain ⟨details, hdetails⟩ :=
          Tool.asOperation_of_start_hook hlisted hopened (hhook ▸ hserved)
        refine .inr ⟨.doing r.operation, details, ?_, congrArg Except.error hdetails⟩
        exact ⟨iff_of_false (by rintro ⟨⟩) (by rintro ⟨f, ⟨⟩⟩), iff_of_true rfl ⟨_, rfl⟩⟩
      · obtain ⟨v, -, rfl⟩ := (Tool.start_hook_eq_ok_iff hlisted).1 (hhook ▸ hserved)
        exact .inl ⟨v, rfl⟩

/-- Where no tool can be chosen, nothing is run. -/
theorem runsOf_of_error {clipboard : SystemClipboard} {host : Host β} {f : Failure} (r : Request)
    (h : clipboard.choice host.surroundings = .error f) :
    clipboard.runsOf r host = [] := by
  rw [runsOf, h]

end SystemClipboard

/-- A command on the clipboard of the host runs what its transfer runs. -/
theorem Command.runs_answer {c : Container β} {clipboard : SystemClipboard}
    (hc : c.adapter = .system clipboard) (r : Request) (host : Host β) :
    ((Command.answer c r).start host).2.runs = host.runs ++ clipboard.runsOf r host := by
  have hclipboard : c.clipboard = clipboard.asClipboard := by rw [Container.clipboard, hc]
  obtain ⟨notices, h⟩ := Command.snd_start_answer c r host
  rw [h, hclipboard]
  exact clipboard.runs_course r host

/-- **Commands on the clipboard of the host reply in one of three ways.** For a container without a
clipboard of its own, on every host, whatever its programs do and however their runs end: a command
replies; the reply is a good one with a value exactly if a tool can be chosen and its run serves the
request with that value; a failed reply blames the reaching of the clipboard if no tool can be
chosen, and then no command was run, and the operation of the command in all other cases. -/
theorem Command.answer_on_host {c : Container β} (hc : c.adapter = .system (.ofSettings c.settings))
    (r : Request) {host : Host β} (hrun : host.programs.Untagged) :
    ∃ reply, ((Command.answer c r).start host).1 = .ok reply ∧
      (∀ v, reply.ok = true ∧ reply.value = v ↔
        (SystemClipboard.ofSettings c.settings).Serves host r v) ∧
      (reply.ok = false → reply.value = none ∧ ∃ (b : Blame) (error : Text),
        reply.error = some error ∧ (∀ b' : Blame, error.startsWith b'.lead = true ↔ b' = b) ∧
        (SystemClipboard.ofSettings c.settings).Blames host r.operation b) ∧
      ((∃ f, (SystemClipboard.ofSettings c.settings).choice host.surroundings = .error f) →
        ((Command.answer c r).start host).2.runs = host.runs) := by
  have hclipboard : c.clipboard = (SystemClipboard.ofSettings c.settings).asClipboard := by
    rw [Container.clipboard, hc]
  have hruns : (∃ f, (SystemClipboard.ofSettings c.settings).choice host.surroundings = .error f) →
      ((Command.answer c r).start host).2.runs = host.runs := by
    rintro ⟨f, hf⟩
    rw [Command.runs_answer hc, SystemClipboard.runsOf_of_error r hf, List.append_nil]
  obtain ⟨hserves, hends⟩ := (SystemClipboard.ofSettings c.settings).outcome_course r hrun
  rw [Command.fst_start_answer_eq, hclipboard]
  rcases hends with ⟨v, hout⟩ | ⟨b, details, hblames, hout⟩
  · obtain ⟨backend, tool, hchoice, hv⟩ := (hserves v).1 hout
    rw [hout, Command.verdict_of_serves hv]
    refine ⟨_, rfl, fun u => ?_, by rintro ⟨⟩, hruns⟩
    rw [← hserves u, hout, Except.ok.injEq]
    exact ⟨fun h => congrArg Value.ofText? h.2, fun h => ⟨rfl, Value.ofText?_inj h⟩⟩
  · rw [hout, Command.verdict_failure]
    refine ⟨_, rfl, fun v => ?_, fun _ => ⟨rfl, b, _, rfl, fun b' => ?_, hblames⟩, hruns⟩
    · rw [← hserves v, hout]
      exact iff_of_false (by rintro ⟨⟨⟩, -⟩) (by rintro ⟨⟩)
    · exact Blame.startsWith_lead_iff b b' details

/-- On a Mac, what is printed is the text on the clipboard and one more line feed. Reading gives the
text without the line end that it has itself. -/
theorem Command.answer_on_host_of_printed_line :
    let settings : Settings := { stripTrailingNewline := true }
    let clipboard : SystemClipboard := .ofSettings settings
    let c : Container Unit := ⟨settings, .system clipboard, none, ⟨⟨"/", []⟩⟩⟩
    let host : Host Unit := { Host.bare () with
      platform := "darwin"
      programs := .scripted ["pbcopy", "osascript"] (.exited 0 [0xc3, 0xa9, 13, 10, 10] []) }
    (c.adapter = .system (.ofSettings c.settings) ∧ host.programs.Untagged) ∧
      clipboard.Serves host .read (some "é") ∧
      ∃ reply, ((Command.answer c .read).start host).1 = .ok reply ∧
        reply.ok = true ∧ reply.value = some (Text.ofString "é") := by
  intro settings clipboard c host
  have hrun : host.programs.Untagged := fun _ _ _ _ h => nomatch h
  have hserves : clipboard.Serves host .read (some "é") := by
    have hencode : Charset.utf8.encode "é\r\n" = .ok [0xc3, 0xa9, 13, 10] := by decide
    exact ⟨.auto, Tool.pbcopy, rfl, .handedOver rfl hencode (.pair "é")⟩
  obtain ⟨reply, hr, hgood, -⟩ := Command.answer_on_host (c := c) rfl .read hrun
  exact ⟨⟨rfl, hrun⟩, hserves, reply, hr, (hgood _).2 hserves⟩

end Pasteboard
