import Pasteboard.Proofs.Runs

/-!
# The first tool that can be used

A tool can be used where its session variable has a value and the programs of its commands are found
(`Tool.Usable`), and the check of a listed tool says so (`Tool.check_cases`). `Tool.Tried` lists the
tools that come into question for a backend on a platform. What is chosen is the first of them that
can be used (`Tool.resolve_cases`): detection gives up at once where there is no display session,
but there no tool of a desktop can be used (`Tool.not_usable_of_no_session`).

`SystemClipboard.resolve_first_usable` says this of the choice as it is made on a host, where a
platform and an environment may be given in place of those of the process.
-/

namespace Pasteboard

variable {β : Type}

theorem Environment.isSet_iff {e : Environment} {name : Text} :
    e.isSet name = true ↔ ∃ value, e.get? name = some value ∧ value ≠ [] := by
  rw [isSet]
  rcases e.get? name with _ | value
  · exact iff_of_false nofun (by rintro ⟨_, ⟨⟩, -⟩)
  · simp

namespace Tool

variable {tool : Tool} {around : Surroundings}

/-! ### One tool -/

/-- The tool can be used: its session variable, if it has one, has a value that is not empty, and
the programs that start its commands are found. -/
structure Usable (tool : Tool) (around : Surroundings) : Prop where
  session : ∀ v, tool.sessionVariable = some v →
    ∃ value, around.environment.get? v = some value ∧ value ≠ []
  programs : ∀ op program, (tool.command op).head? = some program → around.finds program = true

/-- The programs of a listed tool are the first words of its commands. -/
theorem Listed.executables_eq (h : tool.Listed) :
    ∃ programs, tool.executables = .ok programs ∧
      ∀ program, program ∈ programs ↔ ∃ op, (tool.command op).head? = some program := by
  obtain ⟨copy, copyWords, hcopy⟩ := h.exists_program .copy
  obtain ⟨paste, pasteWords, hpaste⟩ := h.exists_program .read
  have hops : ∀ program, (∃ op, (tool.command op).head? = some program) ↔
      program = copy ∨ program = paste := by
    intro program
    constructor
    · rintro ⟨op, hop⟩
      cases op with
      | copy => exact .inl (by simpa [hcopy, eq_comm] using hop)
      | read => exact .inr (by simpa [hpaste, eq_comm] using hop)
    · rintro (rfl | rfl)
      · exact ⟨.copy, by rw [hcopy]; rfl⟩
      · exact ⟨.read, by rw [hpaste]; rfl⟩
  refine ⟨if copy = paste then [copy] else [copy, paste], ?_, fun program => ?_⟩
  · have hcopy : tool.copyCommand = copy :: copyWords := hcopy
    have hpaste : tool.pasteCommand = paste :: pasteWords := hpaste
    rw [executables, hcopy, hpaste]
    rfl
  · rw [hops]
    split_ifs with heq
    · simp [heq]
    · simp

/-- A listed tool lacks its session exactly if it needs one and the variable has no value. -/
theorem Listed.missingSession?_eq_none_iff (h : tool.Listed) :
    tool.missingSession? around = none ↔ ∀ v, tool.sessionVariable = some v →
      ∃ value, around.environment.get? v = some value ∧ value ≠ [] := by
  have hnamed : tool.sessionVariable ≠ some [] := by
    obtain rfl | rfl | rfl | rfl := h.cases <;> decide
  rw [missingSession?]
  rcases hvar : tool.sessionVariable with _ | v
  · exact iff_of_true rfl nofun
  · have hv : v.isEmpty = false := by
      rw [hvar] at hnamed
      simpa using hnamed
    have hset := @Environment.isSet_iff around.environment v
    cases hcase : around.environment.isSet v with
    | true => simpa [hv, hcase] using hset
    | false => simpa [hv, hcase] using hset

/-- **The check of a listed tool passes exactly if the tool can be used**; otherwise there is no
clipboard to be reached. -/
theorem check_cases (h : tool.Listed) (around : Surroundings) :
    (tool.Usable around ∧ tool.check around = .ok ()) ∨
      (¬ tool.Usable around ∧ ∃ details, tool.check around = .error (.init details)) := by
  obtain ⟨programs, hprograms, hmem⟩ := h.executables_eq
  rw [check]
  rcases hsession : tool.missingSession? around with _ | v
  · have hfound : (programs.filter fun program => !around.finds program).isEmpty = true ↔
        ∀ op program, (tool.command op).head? = some program → around.finds program = true := by
      simp only [List.isEmpty_iff, List.filter_eq_nil_iff, hmem, Bool.not_eq_true',
        Bool.not_eq_false]
      exact ⟨fun h op program hop => h program ⟨op, hop⟩,
        fun h program ⟨op, hop⟩ => h op program hop⟩
    simp only [hprograms, bind, Except.bind]
    split_ifs with hnone
    · exact .inl ⟨⟨h.missingSession?_eq_none_iff.1 hsession, hfound.1 hnone⟩, rfl⟩
    · exact .inr ⟨fun husable => hnone (hfound.2 husable.programs), _, rfl⟩
  · right
    refine ⟨fun husable => ?_, _, rfl⟩
    rw [h.missingSession?_eq_none_iff.2 husable.session] at hsession
    cases hsession

/-! ### Several tools -/

/-- The first of some tools that can be used. -/
def FirstUsable (around : Surroundings) (tools : List Tool) (tool : Tool) : Prop :=
  ∃ before after, tools = before ++ tool :: after ∧ (∀ other ∈ before, ¬ other.Usable around) ∧
    tool.Usable around

/-- **A search ends with the first tool that can be used**, or for want of one there is no clipboard
to be reached. -/
theorem firstUsable_cases (around : Surroundings) {tools : List Tool}
    (htools : ∀ tool ∈ tools, tool.Listed) {reasons : List Failure} :
    (∃ tool, FirstUsable around tools tool ∧ firstUsable around tools reasons = .ok tool) ∨
      ((∀ tool ∈ tools, ¬ tool.Usable around) ∧
        ∃ details, firstUsable around tools reasons = .error (.init details)) := by
  -- the reasons so far only decide about the text of the failure
  induction tools generalizing reasons with
  | nil =>
    right
    refine ⟨List.forall_mem_nil _, ?_⟩
    rw [firstUsable.eq_def]
    split
    · exact ⟨_, rfl⟩
    · exact ⟨_, rfl⟩
    · contradiction
  | cons first rest ih =>
    rw [List.forall_mem_cons] at htools
    rcases check_cases htools.1 around with ⟨husable, hcheck⟩ | ⟨hunusable, reason, hcheck⟩
    · left
      refine ⟨first, ⟨[], rest, rfl, List.forall_mem_nil _, husable⟩, ?_⟩
      rw [firstUsable, hcheck]
    · rw [firstUsable, hcheck]
      dsimp only
      rcases ih htools.2 with ⟨tool, ⟨before, after, rfl, hbefore, husable⟩, hfound⟩ |
        ⟨hnone, hfailed⟩
      · exact .inl ⟨tool, ⟨first :: before, after, rfl,
          List.forall_mem_cons.2 ⟨hunusable, hbefore⟩, husable⟩, hfound⟩
      · exact .inr ⟨List.forall_mem_cons.2 ⟨hunusable, hnone⟩, hfailed⟩

/-- The tools that come into question for a backend on a platform, in the order in which they are
tried. A backend that is configured has its own tool on every platform. -/
inductive Tried : Backend → Text → List Tool → Prop
  | configured {backend : Backend} {tool : Tool} (own : ofBackend? backend = some tool)
      (platform : Text) : Tried backend platform [tool]
  | darwin {platform : Text} (exactly : platform = "darwin") : Tried .auto platform [pbcopy]
  | win32 {platform : Text} (exactly : platform = "win32") : Tried .auto platform [windows]
  | desktop {platform start : Text}
      (known : start ∈ (["linux", "freebsd", "openbsd", "netbsd"] : List Text))
      (starts : start <+: platform) : Tried .auto platform [wlClipboard, xclip]
  | unsupported {platform : Text} (darwin : platform ≠ "darwin") (win32 : platform ≠ "win32")
      (desktop : ∀ start ∈ (["linux", "freebsd", "openbsd", "netbsd"] : List Text),
        ¬ start <+: platform) : Tried .auto platform []

theorem Tried.listed {backend : Backend} {platform : Text} {tools : List Tool}
    (h : Tried backend platform tools) : ∀ tool ∈ tools, tool.Listed := by
  cases h with
  | configured own => exact List.forall_mem_singleton.2 ⟨_, own⟩
  | darwin => exact List.forall_mem_singleton.2 ⟨.pbcopy, rfl⟩
  | win32 => exact List.forall_mem_singleton.2 ⟨.windows, rfl⟩
  | desktop =>
    exact List.forall_mem_cons.2 ⟨⟨.wlClipboard, rfl⟩, List.forall_mem_singleton.2 ⟨.xclip, rfl⟩⟩
  | unsupported => exact List.forall_mem_nil _

/-- Only detection is a backend without a tool of its own. -/
theorem ofBackend?_eq_none_iff {backend : Backend} :
    ofBackend? backend = none ↔ backend = .auto := by
  cases backend <;> simp [ofBackend?]

theorem any_startsWith_iff {platform : Text} :
    (desktopPlatforms.any fun start => platform.startsWith start) = true ↔
      ∃ start ∈ desktopPlatforms, start <+: platform := by
  simp only [List.any_eq_true, Text.startsWith, List.isPrefixOf_iff_prefix]

/-- Some tools are tried on every platform, if only none. -/
theorem exists_tried (backend : Backend) (platform : Text) :
    ∃ tools, Tried backend platform tools := by
  rcases hown : ofBackend? backend with _ | tool
  · obtain rfl := ofBackend?_eq_none_iff.1 hown
    by_cases hdarwin : platform = "darwin"
    · exact ⟨_, .darwin hdarwin⟩
    by_cases hwin32 : platform = "win32"
    · exact ⟨_, .win32 hwin32⟩
    by_cases hdesktop : ∃ start ∈ desktopPlatforms, start <+: platform
    · obtain ⟨start, hknown, hstarts⟩ := hdesktop
      exact ⟨_, .desktop hknown hstarts⟩
    · exact ⟨_, .unsupported hdarwin hwin32 fun start hknown hstarts =>
        hdesktop ⟨start, hknown, hstarts⟩⟩
  · exact ⟨_, .configured hown platform⟩

/-- Without a display session no tool of a desktop can be used. -/
theorem not_usable_of_no_session
    (h : (!around.environment.isSet "WAYLAND_DISPLAY"
      && !around.environment.isSet "DISPLAY") = true) :
    ∀ tool ∈ desktopCandidates, ¬ tool.Usable around := by
  simp only [Bool.and_eq_true, Bool.not_eq_true', ← Bool.not_eq_true, Environment.isSet_iff] at h
  obtain ⟨hwayland, hdisplay⟩ := h
  refine List.forall_mem_cons.2 ⟨fun husable => ?_, List.forall_mem_singleton.2 fun husable => ?_⟩
  · exact hwayland (husable.session _ rfl)
  · exact hdisplay (husable.session _ rfl)

/-- Detection goes through the tools that are tried, or it gives up where none of them can be
used. -/
theorem candidates_cases {tools : List Tool} (h : Tried .auto around.platform tools) :
    candidates around = .ok tools ∨
      (∀ tool ∈ tools, ¬ tool.Usable around) ∧
        ∃ details, candidates around = .error (.init details) := by
  rw [candidates]
  cases h with
  | configured own => cases own
  | darwin hdarwin =>
    rw [if_pos hdarwin]
    exact .inl rfl
  | win32 hwin32 =>
    have hdarwin : around.platform ≠ "darwin" := by
      rw [hwin32]
      decide
    rw [if_neg hdarwin, if_pos hwin32]
    exact .inl rfl
  | @desktop _ start hknown hstarts =>
    -- detection asks for the other two platforms first, and neither is one of a desktop
    have hneither : ∀ start ∈ desktopPlatforms,
        ¬ start <+: ("darwin" : Text) ∧ ¬ start <+: ("win32" : Text) := by decide
    have hdarwin : around.platform ≠ "darwin" := by
      intro heq
      exact (hneither start hknown).1 (heq ▸ hstarts)
    have hwin32 : around.platform ≠ "win32" := by
      intro heq
      exact (hneither start hknown).2 (heq ▸ hstarts)
    rw [if_neg hdarwin, if_neg hwin32, if_pos (any_startsWith_iff.2 ⟨start, hknown, hstarts⟩)]
    split_ifs with hsession
    · exact .inr ⟨not_usable_of_no_session hsession, _, rfl⟩
    · exact .inl rfl
  | unsupported hdarwin hwin32 hdesktop =>
    have hnone : ¬ ∃ start ∈ desktopPlatforms, start <+: around.platform := by
      rintro ⟨start, hknown, hstarts⟩
      exact hdesktop start hknown hstarts
    rw [if_neg hdarwin, if_neg hwin32, if_neg (mt any_startsWith_iff.1 hnone)]
    exact .inr ⟨List.forall_mem_nil _, _, rfl⟩

/-- **The first tool that can be used is chosen** of those that come into question; for want of one
there is no clipboard to be reached. -/
theorem resolve_cases {backend : Backend} {tools : List Tool}
    (h : Tried backend around.platform tools) :
    (∃ tool, FirstUsable around tools tool ∧ resolve around backend = .ok tool) ∨
      ((∀ tool ∈ tools, ¬ tool.Usable around) ∧
        ∃ details, resolve around backend = .error (.init details)) := by
  rcases hown : ofBackend? backend with _ | tool
  · obtain rfl := ofBackend?_eq_none_iff.1 hown
    rw [resolve, hown]
    dsimp only
    rcases candidates_cases h with hcandidates | ⟨hnone, details, hcandidates⟩
    · rw [hcandidates]
      exact firstUsable_cases around h.listed
    · rw [hcandidates]
      exact .inr ⟨hnone, details, rfl⟩
  · obtain rfl : tools = [tool] := by
      cases h with
      | configured own =>
        rw [hown] at own
        cases own
        rfl
      | _ => cases hown
    rw [resolve, hown]
    dsimp only
    rcases check_cases ⟨backend, hown⟩ around with ⟨husable, hcheck⟩ | ⟨hunusable, details, hcheck⟩
    · rw [hcheck]
      exact .inl ⟨tool, ⟨[], [], rfl, List.forall_mem_nil _, husable⟩, rfl⟩
    · rw [hcheck]
      exact .inr ⟨List.forall_mem_singleton.2 hunusable, details, rfl⟩

end Tool

/-! ### The choice on a host -/

namespace SystemClipboard

/-- **The tool that is chosen is the first one that can be used.** The backend is asked for as one
or by its name. A platform and an environment may be given; no platform and an empty one stand for
that of the process, and so does no environment. Where programs are found is up to the process.

Of the tools that come into question for the backend on the platform the first one that can be used
is chosen, and there is a notice of it. If none of them can be used, the choice fails, for the
reason that there is no clipboard to be reached, and does nothing. -/
theorem resolve_first_usable (asked : BackendField) (platform : Option Text)
    (environment : Option Environment) (host : Host β) :
    let around : Surroundings :=
      { platform := (platform.filter fun p => !p.isEmpty).getD host.platform
        environment := environment.getD host.environment
        finds := host.programs.finds host.environment host.disk }
    ∀ backend, asked.resolved = .ok backend →
      (∃ tools, Tool.Tried backend around.platform tools) ∧
        ∀ tools, Tool.Tried backend around.platform tools →
          (∃ tool, Tool.FirstUsable around tools tool ∧
            (resolve asked platform environment).start host =
              (.ok tool, { host with notices := host.notices ++ [chosen backend tool] })) ∨
          ((∀ tool ∈ tools, ¬ tool.Usable around) ∧
            ∃ details, (resolve asked platform environment).start host =
              (.error (.init details), host)) := by
  intro around backend hasked
  have haround : host.surroundings.replacing platform environment = around := by
    rcases platform with _ | _ | _ <;> rfl
  refine ⟨Tool.exists_tried backend around.platform, fun tools htried => ?_⟩
  have hstart : (resolve asked platform environment).start host =
      match Tool.resolve around backend with
      | .ok tool => (.ok tool, { host with notices := host.notices ++ [chosen backend tool] })
      | .error f => (.error f, host) := by
    rw [resolve, Action.start_bind, Action.start_ask, haround]
    dsimp only
    rw [Action.start_bind, Action.start_ofResult, hasked]
    dsimp only
    rw [Action.start_bind, Action.start_ofResult]
    rcases Tool.resolve around backend with f | tool <;> rfl
  rw [hstart]
  rcases Tool.resolve_cases htried with ⟨tool, hfirst, hresolve⟩ | ⟨hnone, details, hresolve⟩
  · rw [hresolve]
    exact .inl ⟨tool, hfirst, rfl⟩
  · rw [hresolve]
    exact .inr ⟨hnone, details, rfl⟩

/-- The variable of Wayland is empty, and so the second candidate is the first that can be used. -/
theorem resolve_first_usable_of_empty_variable :
    let environment : Environment := [("WAYLAND_DISPLAY", ""), ("DISPLAY", ":0")]
    let host : Host Unit := { Host.bare () with
      platform := "win32"
      programs := .scripted ["wl-copy", "wl-paste", "xclip"] (.exited 0 [] []) }
    (resolve (.known .auto) (some "freebsd14") (some environment)).start host =
      (.ok Tool.xclip, { host with notices := [.detectedTool .xclip] }) := by
  intro environment host
  obtain ⟨-, hchoice⟩ :=
    resolve_first_usable (.known .auto) (some "freebsd14") (some environment) host .auto rfl
  have htried : Tool.Tried .auto "freebsd14" [Tool.wlClipboard, Tool.xclip] :=
    @Tool.Tried.desktop "freebsd14" "freebsd" (by decide) (by decide)
  rcases hchoice _ htried with
    ⟨tool, ⟨before, after, htools, hbefore, husable⟩, hstart⟩ | ⟨hnone, -⟩
  · rcases before with _ | ⟨first, _ | ⟨second, more⟩⟩
    · cases htools
      obtain ⟨value, hvalue, hempty⟩ := husable.session _ rfl
      cases hvalue
      exact absurd rfl hempty
    · cases htools
      exact hstart
    · have hlength := congrArg List.length htools
      simp at hlength
  · refine absurd ⟨?_, ?_⟩ (hnone Tool.xclip (by simp))
    · rintro _ ⟨⟩
      exact ⟨":0", rfl, by decide⟩
    · rintro (_ | _) _ ⟨⟩ <;> rfl

end SystemClipboard

end Pasteboard
