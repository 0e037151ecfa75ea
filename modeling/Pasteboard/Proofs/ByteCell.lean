import Pasteboard.Proofs.DiskLaws
import Pasteboard.Proofs.Runs

/-!
# What is read is what was set

A native clipboard is a cell of octets: the copy command of its tool stores what it is handed, and
the paste command prints what is stored, with one more line feed if the tool ends its output with
one (`Programs.Keep`). Through handles for the tool it is a cell of texts.

Between the calls on handles the cell holds the octets of the text that was set last
(`Call.Holds`). A call that sets a text and one that gets it preserve this (`Call.holds_perform`),
so a series of calls does (`Call.holds_run`), and what is got at any time follows from it
(`Call.gets_last_set`).
-/

namespace Pasteboard

variable {β : Type}

/-- The commands of a tool keep a cell: copying stores what it is handed, and pasting prints what is
stored. They never fail. -/
structure Programs.Keep (programs : Programs) (tool : Tool) (cell : Disk → Bytes) : Prop where
  copy : ∀ environment timeout input disk, ∃ output errors after,
    programs.run environment (tool.runOf .copy timeout environment (some input)) disk =
      (.exited 0 output errors, after) ∧ cell after = input
  paste : ∀ environment timeout disk, ∃ errors after,
    programs.run environment (tool.runOf .read timeout environment none) disk =
      (.exited 0 (tool.printed (cell disk)) errors, after) ∧ cell after = cell disk

/-! ### A cell in a file -/

/-- The content of the file at a path; nothing if there is no file. -/
def Disk.contentAt (p : Path) (d : Disk) : Bytes :=
  match d.node? p.resolved with
  | some (.file content _) => content
  | _ => []

/-- Programs that store what they are handed in a file, and print its content as the tool does if
they are handed nothing. -/
def Programs.ofFile (tool : Tool) (p : Path) : Programs where
  finds _ _ _ := true
  run _ r disk :=
    match r.input with
    | some input => (.exited 0 [] [], disk.put p (.file input false))
    | none => (.exited 0 (tool.printed (disk.contentAt p)) [], disk)

/-- A file is a cell. -/
theorem Programs.keep_ofFile (tool : Tool) {p : Path} (hp : p.resolved.names ≠ []) :
    (ofFile tool p).Keep tool (Disk.contentAt p) := by
  refine ⟨fun _ _ input disk => ⟨[], [], disk.put p (.file input false), rfl, ?_⟩,
    fun _ _ disk => ⟨[], disk, rfl, rfl⟩⟩
  rw [Disk.contentAt, Disk.node?_put disk hp, if_pos rfl]

/-! ### Calls on handles -/

/-- A call on a handle for a tool that has not been released. -/
structure Call where
  timeout : Value
  stripLineEnd : Bool
  request : Request

namespace Call

/-- The handle that a call is made on. -/
def handle (call : Call) (tool : Tool) : Handle (Host β) :=
  { hooks := tool.hooks call.timeout call.stripLineEnd }

/-- Sets or gets a text. -/
def perform (call : Call) (tool : Tool) : Action (Host β) Value :=
  match call.request with
  | .copy t => do (call.handle tool).set (.text t); pure .null
  | .read => (call.handle tool).get

/-- Makes calls one after the other; each of them ends in its own way. -/
def run (tool : Tool) : List Call → Host β → List (Call × Except Failure Value) × Host β
  | [], host => ([], host)
  | call :: rest, host =>
    let (result, host) := (call.perform tool).start host
    let (ended, host) := run tool rest host
    ((call, result) :: ended, host)

/-- The text that was set last, after a call that has ended. -/
def setAfter (last : Option Text) (ended : Call × Except Failure Value) : Option Text :=
  match ended.1.request, ended.2 with
  | .copy t, .ok _ => some t
  | _, _ => last

/-- The text that was set last in a series of calls. -/
def lastSet (ended : List (Call × Except Failure Value)) : Option Text := ended.foldl setAfter none

/-- On an open handle a call is the hook of its request. -/
theorem perform_eq (call : Call) (tool : Tool) :
    (call.perform tool : Action (Host β) Value) =
      call.request.hook (tool.hooks call.timeout call.stripLineEnd) := by
  rcases call with ⟨timeout, stripLineEnd, _ | _⟩ <;> rfl

variable {tool : Tool} {cell : Disk → Bytes} {call : Call} {host : Host β}

/-- What a call does to the host is at most one run. -/
theorem snd_start_perform (h : tool.Listed) (call : Call) (host : Host β) :
    ∃ program, ((call.perform tool).start host).2 =
      match call.request.input tool with
      | .error _ => host
      | .ok input => host.ran program call.request.operation
          (tool.runOn host call.request.operation call.timeout input) := by
  obtain ⟨program, words, hcommand⟩ := h.exists_program call.request.operation
  refine ⟨program, ?_⟩
  rw [perform_eq, Tool.start_hook hcommand]
  rcases call.request.input tool <;> rfl

/-- The programs stay the same. -/
theorem programs_start_perform (h : tool.Listed) (call : Call) (host : Host β) :
    ((call.perform tool).start host).2.programs = host.programs := by
  obtain ⟨program, hafter⟩ := snd_start_perform h call host
  rw [hafter]
  rcases call.request.input tool <;> rfl

/-- A text with half of a surrogate pair has no octets: setting it fails, and nothing is run. -/
theorem start_perform_of_hasSurrogate (h : tool.Listed) {t : Text}
    (hcall : call.request = .copy t) (hs : t.hasSurrogate = true) (host : Host β) :
    ∃ f, (call.perform tool).start host = (.error f, host) := by
  obtain ⟨program, words, hcommand⟩ := h.exists_program (Request.copy t).operation
  rw [perform_eq, hcall, Tool.start_hook hcommand, Request.input,
    Tool.encode_of_charset h.writeCodec]
  rcases hencode : Charset.utf8.encode t with fault | input
  · exact ⟨_, rfl⟩
  · rw [(Charset.encode_utf8_eq_ok_iff.1 hencode).1] at hs
    cases hs

/-- Setting any other text stores its octets. -/
theorem start_perform_copy (h : tool.Listed) (hkeep : host.programs.Keep tool cell) {t : Text}
    (hcall : call.request = .copy t) (hs : t.hasSurrogate = false) :
    ((call.perform tool).start host).1 = .ok .null ∧
      Charset.utf8.encode t = .ok (cell ((call.perform tool).start host).2.disk) := by
  obtain ⟨input, hencode⟩ : ∃ input, Charset.utf8.encode t = .ok input :=
    ⟨_, Charset.encode_utf8_eq_ok_iff.2 ⟨hs, rfl⟩⟩
  obtain ⟨output, errors, after, hrun, hcell⟩ :=
    hkeep.copy host.environment call.timeout input host.disk
  constructor
  · rw [perform_eq, hcall, Tool.start_hook_eq_ok_iff h]
    exact ⟨none, .copied hs hencode (congrArg Prod.fst hrun), rfl⟩
  · obtain ⟨program, hafter⟩ := snd_start_perform h call host
    rw [hafter, hcall, Request.input, Tool.encode_of_charset h.writeCodec, hencode]
    have hdisk : (host.programs.run host.environment _ host.disk).2 = after :=
      congrArg Prod.snd hrun
    exact congrArg Except.ok (hcell.symm.trans (congrArg cell hdisk.symm))

/-- Getting a text leaves what is stored. If these are the octets of a text, that text is what is
got, without a line end if that is asked for. -/
theorem start_perform_read (h : tool.Listed) (hkeep : host.programs.Keep tool cell)
    (hcall : call.request = .read) :
    cell ((call.perform tool).start host).2.disk = cell host.disk ∧
      ∀ t, Charset.utf8.encode t = .ok (cell host.disk) →
        ∃ u, ((call.perform tool).start host).1 = .ok (.text u) ∧
          t.Delivers call.stripLineEnd u := by
  obtain ⟨errors, after, hrun, hcell⟩ := hkeep.paste host.environment call.timeout host.disk
  constructor
  · obtain ⟨program, hafter⟩ := snd_start_perform h call host
    rw [hafter, hcall, ← hcell]
    exact congrArg (fun e => cell e.2) hrun
  · intro t hencode
    have hdelivers := Text.delivers_iff.2 (Eq.refl
      (if call.stripLineEnd then t.withoutLineEnd else t))
    refine ⟨_, ?_, hdelivers⟩
    rw [perform_eq, hcall, Tool.start_hook_eq_ok_iff h]
    exact ⟨some _, .handedOver (congrArg Prod.fst hrun) hencode hdelivers, rfl⟩

/-! ### Series of calls -/

/-- Programs keep a cell for the tool, and it holds the octets of the text that was set last. -/
structure Holds (tool : Tool) (cell : Disk → Bytes) (last : Option Text) (host : Host β) :
    Prop where
  programs : host.programs.Keep tool cell
  encode : ∀ t ∈ last, Charset.utf8.encode t = .ok (cell host.disk)

/-- After a call that is over, the cell holds the octets of the text that was set last. -/
theorem holds_perform (h : tool.Listed) {last : Option Text} (hheld : Holds tool cell last host)
    (call : Call) :
    Holds tool cell (setAfter last (call, ((call.perform tool).start host).1))
      ((call.perform tool).start host).2 := by
  obtain ⟨hkeep, hlast⟩ := hheld
  refine ⟨by rwa [programs_start_perform h], ?_⟩
  rcases hcall : call.request with t | _
  · cases hs : t.hasSurrogate with
    | true =>
      obtain ⟨f, hstart⟩ := start_perform_of_hasSurrogate h hcall hs host
      rw [hstart, setAfter, hcall]
      exact hlast
    | false =>
      obtain ⟨hresult, hencode⟩ := start_perform_copy h hkeep hcall hs
      rw [hresult, setAfter, hcall]
      rintro _ ⟨⟩
      exact hencode
  · rw [setAfter, hcall, (start_perform_read h hkeep hcall).1]
    exact hlast

/-- What holds before a series of calls holds after it, by induction on the calls. -/
theorem holds_run (h : tool.Listed) (calls : List Call) {last : Option Text} {host : Host β}
    (hheld : Holds tool cell last host) :
    Holds tool cell ((run tool calls host).1.foldl setAfter last) (run tool calls host).2 := by
  induction calls generalizing last host with
  | nil => exact hheld
  | cons call rest ih => exact ih (holds_perform h hheld call)

/-- **What is got is what was set last.** The commands of a tool keep a cell, and calls are made on
handles for the tool, one after the other. A call that sets a text then fails exactly if the text
has half of a surrogate pair, and if so the cell stays as it is; a call that gets a text after one
was set hands over the text that was set last, without one line end if the handle drops it. -/
theorem gets_last_set (h : tool.Listed) (hkeep : host.programs.Keep tool cell)
    (before : List Call) (call : Call) {ended : List (Call × Except Failure Value)}
    {reached after : Host β} {result : Except Failure Value}
    (hrun : run tool before host = (ended, reached))
    (hcall : (call.perform tool).start reached = (result, after)) :
    (∀ t, call.request = .copy t → ((∃ f, result = .error f) ↔ t.hasSurrogate = true) ∧
        (t.hasSurrogate = true → cell after.disk = cell reached.disk)) ∧
      (call.request = .read → ∀ t, lastSet ended = some t →
        ∃ u, result = .ok (.text u) ∧ t.Delivers call.stripLineEnd u) := by
  have hheld : Holds tool cell (lastSet ended) reached := by
    have hstart : Holds tool cell none host := ⟨hkeep, nofun⟩
    have hend := holds_run h before hstart
    rwa [hrun] at hend
  constructor
  · intro t ht
    cases hs : t.hasSurrogate with
    | true =>
      obtain ⟨f, hstart⟩ := start_perform_of_hasSurrogate h ht hs reached
      rw [hcall] at hstart
      cases hstart
      exact ⟨iff_of_true ⟨f, rfl⟩ rfl, fun _ => rfl⟩
    | false =>
      obtain ⟨hresult, -⟩ := start_perform_copy h hheld.programs ht hs
      rw [hcall] at hresult
      cases hresult
      exact ⟨iff_of_false (by rintro ⟨f, ⟨⟩⟩) nofun, nofun⟩
  · intro hread t ht
    obtain ⟨u, hresult, hdelivers⟩ :=
      (start_perform_read h hheld.programs hread).2 t (hheld.encode t ht)
    rw [hcall] at hresult
    exact ⟨u, hresult, hdelivers⟩

/-- On a Mac, a text is set that ends in two line ends, and a second one that has no octets. The
first one is what is got, without its last line end. -/
theorem gets_last_set_of_lone_half :
    let tool := Tool.pbcopy
    let file := Path.ofText "/cell"
    let host : Host Unit := { Host.bare () with programs := .ofFile tool file }
    let set (t : Text) : Call := ⟨.int 5, false, .copy t⟩
    let before : List Call := [set "a\r\n\n", set [⟨0xd800, by decide⟩]]
    let get : Call := ⟨.int 5, true, .read⟩
    (tool.Listed ∧ host.programs.Keep tool (Disk.contentAt file) ∧ get.request = .read ∧
        lastSet (run tool before host).1 = some (Text.ofString "a\r\n\n")) ∧
      ((get.perform tool).start (run tool before host).2).1 = .ok (.text "a\r\n") := by
  intro tool file host set before get
  have hlisted : tool.Listed := ⟨.pbcopy, rfl⟩
  have hkeep : host.programs.Keep tool (Disk.contentAt file) :=
    Programs.keep_ofFile tool (by decide)
  have hlast : lastSet (run tool before host).1 = some (Text.ofString "a\r\n\n") := by
    decide +kernel
  obtain ⟨u, hresult, hdelivers⟩ :=
    (gets_last_set hlisted hkeep before get (Prod.eta _).symm (Prod.eta _).symm).2 rfl _ hlast
  have hu : u = Text.ofString "a\r\n" := Text.delivers_iff.1 hdelivers
  exact ⟨⟨hlisted, hkeep, rfl, hlast⟩, hu ▸ hresult⟩

end Call

end Pasteboard
