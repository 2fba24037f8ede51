import EngineGateway.Proofs.Script.Gaps

/-!
# Line ends in bracketed scripts

A line end of two octets becomes a line feed, and a carriage return that stands alone within
a string stays.  So a carriage return that stays may come to stand in front of a line feed
that has been made of a line end behind it.  That is the only way in which a line end of two
octets is left, and the only reason why a script changes when its spacing is put in order for
a second time.
-/

namespace EngineGateway.Script

/-- A line end of two octets: a carriage return and a line feed. -/
def lineEnd : Bytes := [0x0D, 0x0A]

/-- Within a bracketed string a carriage return stands in front of a line end. -/
def Stacked (octets : Bytes) : Prop :=
  ∃ before after, octets = before ++ 0x0D :: lineEnd ++ after ∧
    place .bracketed before = .inside

theorem Stacked.append {octets : Bytes} (stacked : Stacked octets) (more : Bytes) :
    Stacked (octets ++ more) := by
  obtain ⟨before, after, rfl, inside⟩ := stacked
  exact ⟨before, after ++ more, by simp, inside⟩

/-- One more octet completes a line end only if it is a line feed behind a carriage return. -/
theorem lineEnd_concat {octets : Bytes} {octet : UInt8}
    (found : lineEnd <:+: octets ++ [octet]) :
    lineEnd <:+: octets ∨ octet = 0x0A ∧ octets.getLast? = some 0x0D := by
  obtain ⟨before, after, parts⟩ := found
  rcases List.eq_nil_or_concat after with rfl | ⟨between, last, rfl⟩
  · right
    have cut : before ++ [0x0D] ++ [0x0A] = octets ++ [octet] := by
      simpa [lineEnd] using parts
    obtain ⟨rfl, last⟩ := List.append_inj' cut rfl
    exact ⟨(List.singleton_inj.mp last).symm, List.getLast?_concat⟩
  · left
    rw [List.concat_eq_append, ← List.append_assoc] at parts
    exact ⟨before, between, (List.append_inj' parts rfl).1⟩

namespace Scan

variable {style : StringStyle} {scan next : Scan} {octet : UInt8}

/-- What is kept of the octets passed so far, with the white space that is waiting. -/
def kept (scan : Scan) : Bytes :=
  scan.written.reverse ++ scan.pending.toList

/-- An octet that is passed is kept, unless it is white space behind white space. -/
theorem Passes.kept_eq (passes : Passes style scan octet next) :
    next.kept = scan.kept ++ [octet] ∨
      next.kept = scan.kept ∧ scan.place = .outside ∧ octet ∈ spaces ∧
        ∃ space, scan.pending = some space := by
  cases passes with
  | held _ out space =>
      cases waiting : scan.pending with
      | none => simp [kept, waiting]
      | some first => simp [kept, waiting, out, space]
  | written _ wrote none _ _ =>
      left
      rw [kept, reverse_written wrote, none]
      simp [kept]

theorem Passes.kept_of_inside (passes : Passes style scan octet next)
    (inside : scan.place = .inside) : next.kept = scan.kept ++ [octet] := by
  rcases passes.kept_eq with more | ⟨_, out, _⟩
  · exact more
  · rw [inside] at out
    cases out

theorem finish_eq_kept (style : StringStyle) (scan : Scan) :
    scan.finish style = scan.kept ++ (if scan.inString then [style.closing] else []) :=
  finish_eq style scan

theorem apart_append {octets rest : Bytes}
    (apart : ∀ later, octet = 0x0D → octets = 0x0A :: later → False)
    (whole : rest.head? ≠ some 0x0A) :
    ∀ later, octet = 0x0D → octets ++ rest = 0x0A :: later → False := by
  intro later returns parts
  cases octets with
  | nil => exact whole (by rw [← List.nil_append rest, parts, List.head?_cons])
  | cons first octets => exact apart octets returns (by rw [(List.cons.inj parts).1])

/-- Scanning can be taken up again behind any octets, unless that tears a line end apart. -/
theorem run_append (style : StringStyle) (scan : Scan) {octets rest : Bytes}
    (whole : rest.head? ≠ some 0x0A) :
    scan.run style (octets ++ rest) = (scan.run style octets).run style rest := by
  fun_induction Scan.run style scan octets with
  | case1 scan => rfl
  | case2 scan octets ih => exact ih
  | case3 scan octet octets apart dropped ih =>
      rw [List.cons_append, run.eq_3 _ _ _ _ (apart_append apart whole), if_pos dropped, ih]
  | case4 scan octet octets apart passed ih =>
      rw [List.cons_append, run.eq_3 _ _ _ _ (apart_append apart whole), if_neg passed, ih]

/-- What is kept stays. -/
theorem Sound.kept_begins (sound : Sound style scan) (octets : Bytes) :
    scan.kept <+: (scan.run style octets).kept := by
  have step : ∀ {scan octet}, Sound style scan → scan.kept <+: (scan.pass style octet).kept := by
    intro scan octet sound
    rcases (sound.passes octet).kept_eq with more | ⟨same, _⟩
    · exact more ▸ List.prefix_append _ _
    · exact same ▸ List.prefix_refl _
  fun_induction Scan.run style scan octets with
  | case1 scan => exact List.prefix_refl _
  | case2 scan rest ih => exact (step sound).trans (ih ((sound.passes _).sound sound))
  | case3 scan octet rest _ _ ih => exact ih sound
  | case4 scan octet rest _ _ ih => exact (step sound).trans (ih ((sound.passes _).sound sound))

/-! ## Line ends that are left -/

/-- Whatever of a line end is kept comes from a carriage return that stands in a string. -/
structure Accounts (seen : Bytes) (scan : Scan) : Prop where
  standing : Standing .bracketed scan
  place : scan.place = Script.place .bracketed seen
  left : lineEnd <:+: scan.kept → Stacked seen
  returned : scan.kept.getLast? = some 0x0D →
    ∃ earlier, seen = earlier ++ [0x0D] ∧ Script.place .bracketed earlier = .inside

theorem accounts_start : Accounts [] start where
  standing := standing_start .bracketed
  place := rfl
  left := by simp [kept, start, lineEnd]
  returned := by simp [kept, start]

section Accounting

variable {seen : Bytes} (accounts : Accounts seen scan)
include accounts

/-- Where white space is waiting, what is kept ends with it. -/
theorem Accounts.not_returned {space : UInt8} (waiting : scan.pending = some space) :
    scan.kept.getLast? ≠ some 0x0D := by
  have among := (accounts.standing.sound.pending space waiting).2.2
  rw [kept, waiting, Option.toList_some, List.getLast?_concat]
  rintro ⟨⟩
  exact absurd among (by decide)

/-- A carriage return outside of strings is dropped. -/
theorem Accounts.drop (out : scan.inString = false) : Accounts (seen ++ [0x0D]) scan where
  standing := accounts.standing
  place := by
    rw [place_concat, ← accounts.place, accounts.standing.sound.place_outside out,
      Place.after_outside_return]
  left := fun found => (accounts.left found).append _
  returned := by
    intro returned
    obtain ⟨earlier, rfl, inside⟩ := accounts.returned returned
    have outside := accounts.standing.sound.place_outside out
    rw [accounts.place, place_concat, inside] at outside
    cases outside

/-- A line end is passed as a line feed. -/
theorem Accounts.lineEnd : Accounts (seen ++ lineEnd) (scan.pass .bracketed 0x0A) := by
  have passes := accounts.standing.sound.passes 0x0A
  refine ⟨accounts.standing.passes passes, ?_, ?_, ?_⟩
  · have cut : seen ++ Script.lineEnd = seen ++ [0x0D] ++ [0x0A] := by simp [Script.lineEnd]
    rw [passes.place_eq, accounts.place, cut, place_concat, place_concat, Place.after_lineEnd]
  · intro found
    rcases passes.kept_eq with more | ⟨same, _⟩
    · rcases lineEnd_concat (more ▸ found) with before | ⟨_, returned⟩
      · exact (accounts.left before).append _
      · obtain ⟨earlier, rfl, inside⟩ := accounts.returned returned
        exact ⟨earlier, [], by simp, inside⟩
    · exact (accounts.left (same ▸ found)).append _
  · intro returned
    rcases passes.kept_eq with more | ⟨same, _, _, space, waiting⟩
    · simp [more] at returned
    · exact absurd (same ▸ returned) (accounts.not_returned waiting)

theorem Accounts.pass (stays : ¬ (octet = 0x0D ∧ scan.inString = false))
    (whole : octet = 0x0A → seen.getLast? ≠ some 0x0D) :
    Accounts (seen ++ [octet]) (scan.pass .bracketed octet) := by
  have passes := accounts.standing.sound.passes octet
  refine ⟨accounts.standing.passes passes, ?_, ?_, ?_⟩
  · rw [passes.place_eq, accounts.place, place_concat]
  · intro found
    rcases passes.kept_eq with more | ⟨same, _⟩
    · rcases lineEnd_concat (more ▸ found) with before | ⟨feeds, returned⟩
      · exact (accounts.left before).append _
      · obtain ⟨earlier, rfl, _⟩ := accounts.returned returned
        exact absurd List.getLast?_concat (whole feeds)
    · exact (accounts.left (same ▸ found)).append _
  · intro returned
    rcases passes.kept_eq with more | ⟨same, _, _, space, waiting⟩
    · obtain rfl : octet = 0x0D := by simpa [more] using returned
      refine ⟨seen, rfl, ?_⟩
      cases here : Script.place .bracketed seen with
      | outside =>
          rw [← accounts.place] at here
          exact absurd ⟨rfl, inString_of_outside here⟩ stays
      | inside => rfl
      | escaped => exact absurd here (place_bracketed_ne_escaped seen)
    · exact absurd (same ▸ returned) (accounts.not_returned waiting)

theorem Accounts.run {octets : Bytes}
    (whole : octets.head? = some 0x0A → seen.getLast? ≠ some 0x0D) :
    Accounts (seen ++ octets) (scan.run .bracketed octets) := by
  fun_induction Scan.run .bracketed scan octets generalizing seen with
  | case1 scan => simpa using accounts
  | case2 scan rest ih =>
      have more := ih accounts.lineEnd (by simp [Script.lineEnd])
      simpa [Script.lineEnd] using more
  | case3 scan octet rest apart dropped ih =>
      have next : rest.head? = some 0x0A → (seen ++ [0x0D]).getLast? ≠ some 0x0D := by
        intro feeds
        obtain ⟨later, rfl⟩ := List.head?_eq_some_iff.mp feeds
        exact (apart later dropped.1 rfl).elim
      have more := ih (accounts.drop dropped.2) next
      rw [dropped.1]
      simpa using more
  | case4 scan octet rest apart stays ih =>
      have next : rest.head? = some 0x0A → (seen ++ [octet]).getLast? ≠ some 0x0D := by
        intro feeds
        obtain ⟨later, rfl⟩ := List.head?_eq_some_iff.mp feeds
        rw [List.getLast?_concat]
        exact fun returns => apart later (Option.some.inj returns) rfl
      have more := ih (accounts.pass stays fun feeds => whole (by rw [feeds, List.head?_cons])) next
      simpa using more

end Accounting

/-- A carriage return in a string is kept, and so is the line feed of a line end behind it. -/
theorem lineEnd_kept {script : Bytes} (stacked : Stacked script) :
    lineEnd <:+: (start.run .bracketed script).kept := by
  obtain ⟨before, after, rfl, inside⟩ := stacked
  obtain ⟨standing, ends⟩ := (standing_start .bracketed).run before
  rw [List.append_assoc, List.cons_append, run_append .bracketed start (by simp)]
  generalize start.run .bracketed before = scan at standing ends ⊢
  have here : scan.place = .inside := ends.trans inside
  have returns := standing.sound.passes 0x0D
  have sound := returns.sound standing.sound
  have still : (scan.pass .bracketed 0x0D).place = .inside := by
    rw [returns.place_eq, here]
    rfl
  have feeds := sound.passes 0x0A
  have both : (scan.run .bracketed (0x0D :: (lineEnd ++ after))) =
      ((scan.pass .bracketed 0x0D).pass .bracketed 0x0A).run .bracketed after := by
    rw [run.eq_3 _ _ _ _ (by simp [lineEnd]), if_neg]
    · rfl
    · rintro ⟨_, out⟩
      rw [standing.sound.place_outside out] at here
      cases here
  have within : lineEnd <:+: ((scan.pass .bracketed 0x0D).pass .bracketed 0x0A).kept := by
    rw [feeds.kept_of_inside still, returns.kept_of_inside here]
    exact ⟨scan.kept, [], by simp [lineEnd]⟩
  rw [both]
  exact within.trans ((feeds.sound sound).kept_begins after).isInfix

end Scan

/-- A line end of two octets is left where a carriage return stands in front of one within a
string, and nowhere else. -/
theorem lineEnd_normalizeSpacing_iff (script : Bytes) :
    lineEnd <:+: normalizeSpacing .bracketed script ↔ Stacked script := by
  have accounts : Scan.Accounts ([] ++ script) (Scan.start.run .bracketed script) :=
    Scan.accounts_start.run (by simp)
  rw [List.nil_append] at accounts
  rw [normalizeSpacing, Scan.finish_eq_kept]
  constructor
  · intro found
    split_ifs at found
    · rcases lineEnd_concat found with left | ⟨feeds, _⟩
      · exact accounts.left left
      · exact absurd feeds (by decide)
    · exact accounts.left (by simpa using found)
  · intro stacked
    exact (Scan.lineEnd_kept stacked).trans (List.prefix_append _ _).isInfix

/-! ## Scripts that stay as they are -/

namespace Scan

variable {style : StringStyle} {scan : Scan}

/-- Of octets that are spaced and hold no line end nothing is dropped. -/
theorem Standing.kept_run (standing : Standing .bracketed scan) {octets : Bytes}
    (spaced : Spaced (scan.kept ++ octets)) (folded : ¬ lineEnd <:+: octets) :
    (scan.run .bracketed octets).kept = scan.kept ++ octets := by
  have step : ∀ {scan octet rest}, Standing .bracketed scan →
      Spaced (scan.kept ++ octet :: rest) →
      (scan.pass .bracketed octet).kept = scan.kept ++ [octet] := by
    intro scan octet rest standing spaced
    rcases (standing.sound.passes octet).kept_eq with more | ⟨_, out, among, space, waiting⟩
    · exact more
    · have first := (standing.sound.pending space waiting).2.2
      rw [kept, waiting, Option.toList_some, List.append_assoc] at spaced
      exact absurd among (spaced.single _ space octet rest rfl (standing.written.trans out) first)
  fun_induction Scan.run .bracketed scan octets with
  | case1 scan => exact (List.append_nil _).symm
  | case2 scan rest _ => exact absurd ⟨[], rest, rfl⟩ folded
  | case3 scan octet rest _ dropped _ =>
      have outside : Script.place .bracketed scan.kept = .outside := by
        rw [kept, standing.place_pending, standing.sound.place_outside dropped.2]
      exact absurd outside (spaced.unreturned _ rest (by rw [dropped.1]))
  | case4 scan octet rest apart stays ih =>
      have more := step standing spaced
      rw [ih (standing.passes (standing.sound.passes octet)), more]
      · simp
      · rw [more]
        simpa using spaced
      · exact fun found => folded (found.trans (List.suffix_cons _ _).isInfix)

theorem Sound.length_pass_le (sound : Sound style scan) (octet : UInt8) :
    (scan.pass style octet).kept.length ≤ scan.kept.length + 1 := by
  rcases (sound.passes octet).kept_eq with more | ⟨same, _⟩
  · simp [more]
  · simp [same]

theorem Sound.length_run_le (sound : Sound style scan) (octets : Bytes) :
    (scan.run style octets).kept.length ≤ scan.kept.length + octets.length := by
  fun_induction Scan.run style scan octets with
  | case1 scan => exact Nat.le_refl _
  | case2 scan rest ih =>
      have passed := sound.length_pass_le 0x0A
      have later := ih ((sound.passes _).sound sound)
      simp only [List.length_cons]
      omega
  | case3 scan octet rest _ _ ih =>
      have later := ih sound
      simp only [List.length_cons]
      omega
  | case4 scan octet rest _ _ ih =>
      have passed := sound.length_pass_le octet
      have later := ih ((sound.passes _).sound sound)
      simp only [List.length_cons]
      omega

/-- Of a line end of two octets at most one is kept. -/
theorem length_kept_lt {octets : Bytes} (found : lineEnd <:+: octets) :
    (start.run .bracketed octets).kept.length < octets.length := by
  obtain ⟨before, after, rfl⟩ := found
  have standing := ((standing_start .bracketed).run before).1
  have first := (sound_start .bracketed).length_run_le before
  have passed := standing.sound.length_pass_le 0x0A
  have later := ((standing.sound.passes 0x0A).sound standing.sound).length_run_le after
  have none : start.kept.length = 0 := rfl
  rw [List.append_assoc, run_append .bracketed start (by simp [lineEnd])]
  simp only [lineEnd, List.cons_append, List.nil_append, run, List.length_append,
    List.length_cons]
  omega

end Scan

/-- A script stays as it is exactly if it is spaced, closes its strings and holds no line end
of two octets. -/
theorem normalizeSpacing_eq_self_iff (octets : Bytes) :
    normalizeSpacing .bracketed octets = octets ↔ Settled octets ∧ ¬ lineEnd <:+: octets := by
  have finished : place .bracketed octets = .outside →
      normalizeSpacing .bracketed octets = (Scan.start.run .bracketed octets).kept := by
    intro closed
    obtain ⟨_, ends⟩ := (Scan.standing_start .bracketed).run octets
    have out := Scan.inString_of_outside (ends.trans closed)
    rw [normalizeSpacing, Scan.finish_eq_kept, out]
    simp
  constructor
  · intro same
    have settled : Settled octets := same ▸ settled_normalizeSpacing octets
    refine ⟨settled, ?_⟩
    intro found
    have shorter := Scan.length_kept_lt found
    rw [← finished settled.closed, same] at shorter
    exact Nat.lt_irrefl _ shorter
  · rintro ⟨settled, folded⟩
    rw [finished settled.closed]
    exact (Scan.standing_start .bracketed).kept_run settled.toSpaced folded

/-- A line end of two octets is left exactly if a carriage return stands in front of one within
a string, and exactly then is the script changed by putting its spacing in order again. -/
theorem lineEnds_folded_iff (script : Bytes) :
    (¬ lineEnd <:+: normalizeSpacing .bracketed script ↔ ¬ Stacked script) ∧
    (normalizeSpacing .bracketed (normalizeSpacing .bracketed script) =
        normalizeSpacing .bracketed script ↔ ¬ Stacked script) := by
  have left := not_congr (lineEnd_normalizeSpacing_iff script)
  have settled := settled_normalizeSpacing script
  refine ⟨left, ?_⟩
  rw [normalizeSpacing_eq_self_iff, left, and_iff_right settled]

/-- A carriage return in front of a line end stays in a string, and a second time the line end
it has become part of is folded. -/
theorem not_every_lineEnd_folded :
    ¬ ∀ script, ¬ lineEnd <:+: normalizeSpacing .bracketed script ∧
      normalizeSpacing .bracketed (normalizeSpacing .bracketed script) =
        normalizeSpacing .bracketed script := by
  intro folded
  have once : normalizeSpacing .bracketed [0x5B, 0x0D, 0x0D, 0x0A, 0x5D] =
      [0x5B, 0x0D, 0x0A, 0x5D] := by decide
  have found := (folded [0x5B, 0x0D, 0x0D, 0x0A, 0x5D]).1
  rw [once] at found
  exact found ⟨[0x5B], [0x5D], rfl⟩

end EngineGateway.Script
