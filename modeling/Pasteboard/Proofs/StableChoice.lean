import Pasteboard.Proofs.FirstUsable

/-!
# Comparing choices

What is chosen for one backend is compared with what is chosen for another one, and what is chosen
in some surroundings with what is chosen where there is more.

* Detection only finds what could have been configured: the tool that is chosen is also chosen by
  its name (`Tool.resolve_name`). Where a platform has one tool, detection and that tool's backend
  come to the same, failures included (`Tool.resolve_auto_of_single`).
* Nothing is lost where there is more (`Surroundings.Within`): a tool that can be used can still be
  used, and detection goes on to the same tool or stops at an earlier one (`Tool.resolve_within`).
* The choice depends on nothing but the platform, the session variables that have a value and the
  programs of listed tools that are found. Where these are the same, so is what is chosen or why
  nothing is (`Tool.resolve_congr`).

`Tool.resolve_is_stable` has all of this in one place.
-/

namespace Pasteboard

namespace Surroundings

/-- The variables that say that there is a display session. -/
def sessionVariables : List Text := ["WAYLAND_DISPLAY", "DISPLAY"]

/-- The name is that of a program that a listed tool starts. -/
def IsToolProgram (program : Text) : Prop :=
  ∃ tool op, Tool.Listed tool ∧ (tool.command op).head? = some program

/-- The other surroundings are on the same platform and have whatever these have: the programs of
tools that are found, and the session variables that are not empty. -/
structure Within (around other : Surroundings) : Prop where
  platform : other.platform = around.platform
  programs : ∀ program, IsToolProgram program →
    around.finds program = true → other.finds program = true
  sessions : ∀ v ∈ sessionVariables,
    around.environment.isSet v = true → other.environment.isSet v = true

end Surroundings

namespace Tool

variable {tool : Tool} {around other : Surroundings} {backend : Backend}

/-! ### One tool -/

/-- A listed tool is that of the backend whose name it has. -/
theorem Listed.ofBackend?_name (h : tool.Listed) : ofBackend? tool.name = some tool := by
  obtain rfl | rfl | rfl | rfl := h.cases <;> rfl

/-- The session of a listed tool is a display session. -/
theorem Listed.mem_sessionVariables (h : tool.Listed) {v : Text}
    (hv : tool.sessionVariable = some v) : v ∈ Surroundings.sessionVariables := by
  obtain rfl | rfl | rfl | rfl := h.cases <;> cases hv <;> decide

/-- A listed tool that can be used can also be used where there is more. -/
theorem Usable.within (h : tool.Listed) (husable : tool.Usable around)
    (hmore : around.Within other) : tool.Usable other := by
  refine ⟨fun v hv => ?_, fun op program hop => ?_⟩
  · have hset := Environment.isSet_iff.2 (husable.session v hv)
    exact Environment.isSet_iff.1 (hmore.sessions v (h.mem_sessionVariables hv) hset)
  · exact hmore.programs program ⟨tool, op, h, hop⟩ (husable.programs op program hop)

/-! ### Where there is as much -/

/-- What both surroundings have in each other is found in both or in neither. -/
theorem finds_congr (hmore : around.Within other) (hless : other.Within around) {program : Text}
    (hprogram : Surroundings.IsToolProgram program) :
    other.finds program = around.finds program :=
  Bool.eq_iff_iff.2 ⟨hless.programs program hprogram, hmore.programs program hprogram⟩

theorem isSet_congr (hmore : around.Within other) (hless : other.Within around) {v : Text}
    (hv : v ∈ Surroundings.sessionVariables) :
    other.environment.isSet v = around.environment.isSet v :=
  Bool.eq_iff_iff.2 ⟨hless.sessions v hv, hmore.sessions v hv⟩

/-- A listed tool is refused for the same reason in both. -/
theorem check_congr (h : tool.Listed) (hmore : around.Within other) (hless : other.Within around) :
    tool.check other = tool.check around := by
  obtain ⟨programs, hprograms, hmem⟩ := h.executables_eq
  have hsession : tool.missingSession? other = tool.missingSession? around := by
    rw [missingSession?, missingSession?]
    rcases hvar : tool.sessionVariable with _ | v
    · rfl
    · dsimp only
      rw [isSet_congr hmore hless (h.mem_sessionVariables hvar)]
  have hmissing : (programs.filter fun program => !other.finds program) =
      programs.filter fun program => !around.finds program := by
    refine List.filter_congr fun program hprogram => ?_
    obtain ⟨op, hop⟩ := (hmem program).1 hprogram
    rw [finds_congr hmore hless ⟨tool, op, h, hop⟩]
  rw [check, check, hsession, hprograms]
  dsimp only [bind, Except.bind]
  rw [hmissing]

/-- A search goes the same way in both, by induction on the tools. -/
theorem firstUsable_congr {tools : List Tool} (htools : ∀ tool ∈ tools, tool.Listed)
    (hmore : around.Within other) (hless : other.Within around) (reasons : List Failure) :
    firstUsable other tools reasons = firstUsable around tools reasons := by
  induction tools generalizing reasons with
  | nil =>
    rw [firstUsable.eq_def, firstUsable.eq_def]
    split
    · rfl
    · rfl
    · contradiction
  | cons first rest ih =>
    rw [List.forall_mem_cons] at htools
    rw [firstUsable, firstUsable, check_congr htools.1 hmore hless]
    rcases first.check around with reason | _
    · exact ih htools.2 _
    · rfl

theorem candidates_congr (hmore : around.Within other) (hless : other.Within around) :
    candidates other = candidates around := by
  have hwayland := isSet_congr hmore hless
    (by decide : Text.ofString "WAYLAND_DISPLAY" ∈ Surroundings.sessionVariables)
  have hdisplay := isSet_congr hmore hless
    (by decide : Text.ofString "DISPLAY" ∈ Surroundings.sessionVariables)
  rw [candidates, candidates, hmore.platform, hwayland, hdisplay]

/-- **The choice depends on what both have**, and on nothing else, if it fails as well. -/
theorem resolve_congr (hmore : around.Within other) (hless : other.Within around)
    (backend : Backend) : resolve other backend = resolve around backend := by
  rw [resolve, resolve]
  rcases hown : ofBackend? backend with _ | tool
  · dsimp only
    rw [candidates_congr hmore hless]
    rcases hcandidates : candidates around with f | tools
    · rfl
    · exact firstUsable_congr (fun tool => listed_of_mem_candidates hcandidates) hmore hless []
  · dsimp only
    rw [check_congr ⟨backend, hown⟩ hmore hless]

/-! ### Detection and configuration -/

/-- A configured tool that can be used is chosen. -/
theorem resolve_of_usable (hown : ofBackend? backend = some tool) (husable : tool.Usable around) :
    resolve around backend = .ok tool := by
  rcases check_cases ⟨backend, hown⟩ around with ⟨-, hcheck⟩ | ⟨hunusable, -⟩
  · rw [resolve, hown]
    dsimp only
    rw [hcheck]
    rfl
  · exact absurd husable hunusable

/-- A tool that is chosen is the first one that can be used. -/
theorem firstUsable_of_resolve {tools : List Tool} (htried : Tried backend around.platform tools)
    (h : resolve around backend = .ok tool) : FirstUsable around tools tool := by
  rcases resolve_cases htried with ⟨found, hfirst, hfound⟩ | ⟨-, details, hfailed⟩
  · rw [hfound] at h
    cases h
    exact hfirst
  · rw [hfailed] at h
    cases h

theorem usable_of_resolve (h : resolve around backend = .ok tool) : tool.Usable around := by
  obtain ⟨tools, htried⟩ := exists_tried backend around.platform
  obtain ⟨_, _, -, -, husable⟩ := firstUsable_of_resolve htried h
  exact husable

/-- **What is chosen is also chosen by its name.** -/
theorem resolve_name (h : resolve around backend = .ok tool) :
    resolve around tool.name = .ok tool :=
  resolve_of_usable (listed_of_resolve h).ofBackend?_name (usable_of_resolve h)

/-- **With one tool to try, detection comes to the same as that tool's backend**: the reason of the
only candidate is passed on. -/
theorem resolve_auto_of_single (hown : ofBackend? backend = some tool)
    (hcandidates : candidates around = .ok [tool]) :
    resolve around .auto = resolve around backend := by
  have hauto : resolve around .auto = firstUsable around [tool] [] := by
    rw [resolve, show ofBackend? .auto = none from rfl]
    dsimp only
    rw [hcandidates]
    rfl
  rw [hauto, firstUsable, resolve, hown]
  dsimp only
  rcases check_cases ⟨backend, hown⟩ around with ⟨-, hcheck⟩ | ⟨-, details, hcheck⟩
  · rw [hcheck]
    rfl
  · rw [hcheck]
    rfl

/-- The choice fails exactly if no tool can be used of those that are tried. -/
theorem resolve_fails_iff {tools : List Tool} (h : Tried backend around.platform tools) :
    (∃ f, resolve around backend = .error f) ↔ ∀ tool ∈ tools, ¬ tool.Usable around := by
  rcases resolve_cases h with
    ⟨tool, ⟨before, after, rfl, -, husable⟩, hfound⟩ | ⟨hnone, details, hfailed⟩
  · refine iff_of_false ?_ fun hnone => hnone tool (by simp) husable
    rintro ⟨f, hf⟩
    rw [hfound] at hf
    cases hf
  · exact iff_of_true ⟨_, hfailed⟩ hnone

/-! ### Where there is more -/

/-- In the order of some tools the first one comes before the second one. -/
def ComesBefore (tools : List Tool) (first second : Tool) : Prop :=
  ∃ before after, tools = before ++ first :: after ∧ second ∈ after

/-- The first tool that can be used where there is more is the same one, or one before it. -/
theorem FirstUsable.within {tools : List Tool} {found found' : Tool}
    (htools : ∀ tool ∈ tools, tool.Listed) (hmore : around.Within other)
    (h : FirstUsable around tools found) (h' : FirstUsable other tools found') :
    found' = found ∨ ComesBefore tools found' found := by
  obtain ⟨before, after, rfl, -, husable⟩ := h
  obtain ⟨before', after', heq, hbefore', -⟩ := h'
  have hlisted : found.Listed := htools found (by simp)
  have hstill : found.Usable other := husable.within hlisted hmore
  rcases List.append_eq_append_iff.1 heq with ⟨middle, rfl, hrest⟩ | ⟨middle, rfl, hrest⟩
  · -- the search where there is more would have gone past the tool that was found
    rcases middle with _ | ⟨first, middle⟩
    · cases hrest
      exact .inl rfl
    · cases hrest
      exact absurd hstill (hbefore' found (by simp))
  · rcases middle with _ | ⟨first, middle⟩
    · cases hrest
      exact .inl rfl
    · cases hrest
      exact .inr ⟨before', middle ++ found :: after, by simp, by simp⟩

/-- **Nothing is lost where there is more.** A backend that has a tool still has one, the same or,
by detection, one that is tried before it. -/
theorem resolve_within (hmore : around.Within other) (h : resolve around backend = .ok tool) :
    ∃ tool', resolve other backend = .ok tool' ∧ (tool' = tool ∨ backend = .auto ∧
      ∃ tools, Tried .auto around.platform tools ∧ ComesBefore tools tool' tool) := by
  have hlisted : tool.Listed := listed_of_resolve h
  have hstill : tool.Usable other := (usable_of_resolve h).within hlisted hmore
  rcases hown : ofBackend? backend with _ | own
  · obtain rfl := ofBackend?_eq_none_iff.1 hown
    obtain ⟨tools, htried⟩ := exists_tried .auto around.platform
    have htried' : Tried .auto other.platform tools := by rwa [hmore.platform]
    have hfirst : FirstUsable around tools tool := firstUsable_of_resolve htried h
    rcases resolve_cases htried' with ⟨tool', hfirst', hfound⟩ | ⟨hnone, -⟩
    · refine ⟨tool', hfound, ?_⟩
      rcases hfirst.within htried.listed hmore hfirst' with rfl | hbefore
      · exact .inl rfl
      · exact .inr ⟨rfl, tools, htried, hbefore⟩
    · obtain ⟨before, after, rfl, -, -⟩ := hfirst
      exact absurd hstill (hnone tool (by simp))
  · -- a configured backend has the one tool everywhere
    rw [resolve, hown] at h
    obtain ⟨_, -, htool⟩ := bind_eq_ok_iff.1 h
    cases htool
    exact ⟨tool, resolve_of_usable hown hstill, .inl rfl⟩

/-! ### All of it -/

/-- **Detection agrees with configuration, and the choice does not get worse where there is more.**

* What detection chooses is chosen by its name, too.
* On the two platforms with one tool, detection comes to the same as that tool's backend: the same
  tool, or a failure with the same details.
* On a desktop, detection fails exactly if both of its backends do.
* In other surroundings on the same platform that have at least the programs of tools and the
  display sessions of these, a backend that has a tool here has the same one there, or by detection
  one that is tried before it.
* Surroundings that have neither more nor less of these than each other give the same tool or the
  same failure. -/
theorem resolve_is_stable (around : Surroundings) :
    (∀ tool, resolve around .auto = .ok tool → resolve around tool.name = .ok tool) ∧
      (around.platform = "darwin" → resolve around .auto = resolve around .pbcopy) ∧
      (around.platform = "win32" → resolve around .auto = resolve around .windows) ∧
      ((∃ start ∈ (["linux", "freebsd", "openbsd", "netbsd"] : List Text),
          start <+: around.platform) →
        ((∃ f, resolve around .auto = .error f) ↔
          (∃ f, resolve around .wlClipboard = .error f) ∧ ∃ f, resolve around .xclip = .error f)) ∧
      (∀ other, around.Within other → ∀ backend tool, resolve around backend = .ok tool →
        ∃ tool', resolve other backend = .ok tool' ∧ (tool' = tool ∨ backend = .auto ∧
          ∃ tools, Tried .auto around.platform tools ∧ ComesBefore tools tool' tool)) ∧
      ∀ other, around.Within other → other.Within around →
        ∀ backend, resolve other backend = resolve around backend := by
  refine ⟨fun tool => resolve_name, fun hdarwin => ?_, fun hwin32 => ?_,
    fun ⟨start, hknown, hstarts⟩ => ?_, fun other hmore backend tool => resolve_within hmore,
    fun other => resolve_congr⟩
  · refine resolve_auto_of_single rfl ?_
    rw [candidates, if_pos hdarwin]
  · have hdarwin : around.platform ≠ "darwin" := by
      rw [hwin32]
      decide
    refine resolve_auto_of_single rfl ?_
    rw [candidates, if_neg hdarwin, if_pos hwin32]
  · have hauto := resolve_fails_iff (Tried.desktop hknown hstarts)
    have hwayland : Tried .wlClipboard around.platform [wlClipboard] := .configured rfl _
    have hxclip : Tried .xclip around.platform [xclip] := .configured rfl _
    rw [hauto, resolve_fails_iff hwayland, resolve_fails_iff hxclip, List.forall_mem_cons,
      List.forall_mem_singleton, List.forall_mem_singleton]

/-- Both display sessions are there, but only one of their tools. Where the other tool is added,
detection goes over to that one, which is tried before, and the backend keeps its tool. -/
theorem resolve_is_stable_of_added_tool :
    let sessions : Environment := [("DISPLAY", ":0"), ("WAYLAND_DISPLAY", "wayland-0")]
    let around : Surroundings := ⟨"openbsd7", sessions, fun program => decide (program = "xclip")⟩
    let other : Surroundings := ⟨"openbsd7", sessions, fun _ => true⟩
    (resolve around .auto = .ok xclip ∧ around.Within other ∧
        Text.ofString "openbsd" <+: around.platform) ∧
      resolve around .xclip = .ok xclip ∧ resolve other .xclip = .ok xclip ∧
      resolve other .auto = .ok wlClipboard ∧
      ∃ tools, Tried .auto "openbsd7" tools ∧ ComesBefore tools wlClipboard xclip := by
  intro sessions around other
  have hauto : resolve around .auto = .ok xclip := rfl
  have hadded : resolve other .auto = .ok wlClipboard := rfl
  have hwithin : around.Within other := ⟨rfl, fun _ _ _ => rfl, fun _ _ hset => hset⟩
  obtain ⟨hname, -, -, -, hmore, -⟩ := resolve_is_stable around
  have hconfigured : resolve around .xclip = .ok xclip := hname xclip hauto
  obtain ⟨kept, hkept, rfl | ⟨⟨⟩, -⟩⟩ := hmore other hwithin .xclip xclip hconfigured
  refine ⟨⟨hauto, hwithin, by decide⟩, hconfigured, hkept, hadded, ?_⟩
  obtain ⟨found, hfound, hcases⟩ := hmore other hwithin .auto xclip hauto
  rw [hadded] at hfound
  cases hfound
  rcases hcases with hsame | ⟨-, hbefore⟩
  · exact absurd (congrArg Tool.name hsame) (by decide)
  · exact hbefore

end Tool

end Pasteboard
