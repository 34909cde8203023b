import ReadingLog.Link
import ReadingLog.NoteIndex
import ReadingLog.Proofs.Trimming

/-!
# Links to notes by their paths

A note in a folder can be referred to by its path in many ways: by a wiki link, with or without the extension, a heading and
an alias, or by a Markdown link with some of its characters percent-coded and a fragment. All of them lead to that note.
-/

namespace ReadingLog

/-! ## What links hold -/

/-- A wiki link to a target. -/
def wikiLink (target : Text) : Text := ['[', '['] ++ target ++ [']', ']']

/-- A Markdown link to a target. -/
def markdownLink (label target : Text) : Text := '[' :: label ++ [']', '('] ++ target ++ [')']

theorem getLast?_wikiLink (target : Text) : (wikiLink target).getLast? = some ']' := by
  rw [wikiLink, List.getLast?_append]
  rfl

theorem getLast?_markdownLink (label target : Text) : (markdownLink label target).getLast? = some ')' :=
  List.getLast?_concat

theorem trim_wikiLink (target : Text) : (wikiLink target).trim = wikiLink target := by
  refine Text.trim_of_bare_ends (fun c first => ?_) (fun c found => ?_)
  · obtain rfl : '[' = c := Option.some.inj first
    decide
  · obtain rfl : ']' = c := Option.some.inj ((getLast?_wikiLink target).symm.trans found)
    decide

theorem wikiLink?_wikiLink (target : Text) : wikiLink? (wikiLink target) = some target := by
  have opened : ['[', '['].isPrefixOf? (wikiLink target) = some (target ++ [']', ']']) :=
    List.isPrefixOf?_eq_some_iff_append_eq.2 rfl
  have closed : [']', ']'].isSuffixOf? (target ++ [']', ']']) = some target := List.isSuffixOf?_eq_some_iff_append_eq.2 rfl
  simp [wikiLink?, opened, closed]

/-- A wiki link ends in brackets, so no Markdown link is one, whatever its label begins with. -/
theorem wikiLink?_markdownLink (label target : Text) : wikiLink? (markdownLink label target) = none := by
  rw [Option.eq_none_iff_forall_ne_some]
  intro inner found
  obtain ⟨opened, starts, closed⟩ := Option.bind_eq_some_iff.1 found
  have ends : inner ++ [']', ']'] = opened := List.isSuffixOf?_eq_some_iff_append_eq.1 closed
  have starts : ['[', '['] ++ opened = markdownLink label target := List.isPrefixOf?_eq_some_iff_append_eq.1 starts
  have both : wikiLink inner = markdownLink label target := by rw [wikiLink, List.append_assoc, ends, starts]
  have last := congrArg List.getLast? both
  rw [getLast?_wikiLink, getLast?_markdownLink] at last
  exact absurd last (by decide)

theorem markdownLink?_markdownLink {label : Text} (plain : ¬ [']', '('] <:+: label) (target : Text) :
    markdownLink? (markdownLink label target) = some target := by
  have opened : ['['].isPrefixOf? (markdownLink label target) = some (label ++ ([']', '('] ++ (target ++ [')']))) :=
    List.isPrefixOf?_eq_some_iff_append_eq.2 (by simp [markdownLink])
  have cut := Text.splitOnce?_append (a := ']') (b := '(') (by decide) plain (target ++ [')'])
  have closed : [')'].isSuffixOf? (target ++ [')']) = some target := List.isSuffixOf?_eq_some_iff_append_eq.2 rfl
  simp only [markdownLink?, opened, cut, closed, Option.bind_eq_bind, Option.bind_some]

/-! ## Looking paths up -/

namespace NoteIndex

/-- The path of a note in some folder, in a form in which it can be told from a title and from a path to this folder. -/
structure IsPlainPath (target : Text) : Prop where
  trimmed : target.trim = target
  in_folder : '/' ∈ target
  not_here : ¬ ['.', '/'] <+: target
  extension : ['.', 'm', 'd'] <:+ target

/-- A target that is looked up as a path. -/
structure LeadsTo (target path : Text) : Prop where
  trimmed : target.trim = target
  in_folder : '/' ∈ target
  not_here : ¬ ['.', '/'] <+: target
  extended : withExtension target = path

variable {index : NoteIndex} {path : NotePath}

theorem IsPlainPath.leadsTo {path : Text} (plain : IsPlainPath path) : LeadsTo path path :=
  ⟨plain.trimmed, plain.in_folder, plain.not_here, if_pos (List.isSuffixOf_iff_suffix.2 plain.extension)⟩

/-- The extension can be left out where the rest of the path does not end in white space or in another extension. -/
theorem IsPlainPath.leadsTo_of_extension {path name : Text} (plain : IsPlainPath path) (whole : name ++ ['.', 'm', 'd'] = path)
    (trimmed : name.trimEnd = name) (lacks : ¬ ['.', 'm', 'd'] <:+ name) : LeadsTo name path := by
  have start : name <+: path := whole ▸ List.prefix_append ..
  have bare : name.trimStart = name := Text.trimStart_of_prefix start (Text.trimStart_of_trimmed plain.trimmed)
  refine ⟨by rw [Text.trim, bare, trimmed], ?_, fun here => plain.not_here (here.trans start), ?_⟩
  · have slash := plain.in_folder
    rw [← whole, List.mem_append] at slash
    exact slash.resolve_right (by decide)
  · rw [withExtension, if_neg (by rwa [List.isSuffixOf_iff_suffix]), whole]

theorem resolve?_of_leadsTo {target : Text} (leads : LeadsTo target path.toList) (listed : path ∈ index.notes)
    (source : NotePath) : index.resolve? target source = some path := by
  have here : dropHere target = target := by
    unfold dropHere
    split
    · exact absurd (List.prefix_append ..) leads.not_here
    · rfl
  have nonempty : target.isEmpty = false := by
    cases spelled : target with
    | nil => exact absurd (spelled ▸ leads.in_folder) List.not_mem_nil
    | cons => rfl
  have found : index.notes.find? (fun note => decide (note = path)) = some path := by
    cases first : index.notes.find? fun note => decide (note = path) with
    | none => simpa using List.find?_eq_none.1 first path listed
    | some note => simpa using List.find?_some first
  simpa [resolve?, leads.trimmed, here, nonempty, leads.in_folder, leads.extended, String.toList_inj] using found

theorem resolve?_plainPath (plain : IsPlainPath path.toList) (listed : path ∈ index.notes) (source : NotePath) :
    index.resolve? path.toList source = some path :=
  resolve?_of_leadsTo plain.leadsTo listed source

end NoteIndex

/-! ## Targets of links -/

section

variable {before mark body after target addition label : Text}

/-- White space around a link and a mark that embeds it are taken away. -/
theorem unembedded_trim (blank : ∀ c ∈ before, Text.isBlank c) (blank' : ∀ c ∈ after, Text.isBlank c)
    (embeds : mark = [] ∨ mark = ['!']) (opens : body.head? = some '[') (closes : ∃ c ∈ body.getLast?, ¬ Text.isBlank c) :
    unembedded (Text.trim (before ++ (mark ++ body ++ after))) = body := by
  cases body with
  | nil => cases opens
  | cons d body =>
    obtain rfl := Option.some.inj opens
    obtain ⟨c, last, inked⟩ := closes
    have last' : c ∈ (mark ++ '[' :: body).getLast? := by rw [List.getLast?_append, last]; rfl
    rcases embeds with rfl | rfl
    · rw [Text.trim_surrounded blank blank' ⟨'[', rfl, by decide⟩ ⟨c, last', inked⟩]
      rfl
    · rw [Text.trim_surrounded blank blank' ⟨'!', rfl, by decide⟩ ⟨c, last', inked⟩]
      rfl

/-- The target of a wiki link ends where an alias or a heading begins. -/
theorem takeWhile_target (no_alias : '|' ∉ target) (no_heading : '#' ∉ target)
    (adds : ∀ c ∈ addition.head?, c = '|' ∨ c = '#') :
    (target ++ addition).takeWhile (fun c => c != '|' && c != '#') = target := by
  refine Text.takeWhile_append_of_ends (fun c member => ?_) fun c head => ?_
  · simp only [Bool.and_eq_true, bne_iff_ne]
    exact ⟨fun same => no_alias (same ▸ member), fun same => no_heading (same ▸ member)⟩
  · rcases adds c head with rfl | rfl <;> decide

theorem linkTarget_wikiLink (trimmed : target.trim = target) (no_alias : '|' ∉ target) (no_heading : '#' ∉ target) :
    linkTarget (wikiLink target) = target := by
  have whole := @takeWhile_target target [] no_alias no_heading nofun
  rw [List.append_nil] at whole
  have unmarked : unembedded (wikiLink target) = wikiLink target := rfl
  simp [linkTarget, trim_wikiLink, unmarked, wikiLink?_wikiLink, whole, trimmed]

end

/-! ## References -/

/-- The ways to link to the note at a path. -/
inductive RefersTo (path : Text) : Text → Prop
  /-- A wiki link with the path, and maybe a heading, an alias or both after it. -/
  | path {addition : Text} (no_alias : '|' ∉ path) (no_heading : '#' ∉ path)
    (adds : ∀ c ∈ addition.head?, c = '|' ∨ c = '#') : RefersTo path (wikiLink (path ++ addition))
  /-- The same without the extension of the path. -/
  | name {name addition : Text} (whole : name ++ ['.', 'm', 'd'] = path) (trimmed : name.trimEnd = name)
    (lacks : ¬ ['.', 'm', 'd'] <:+ name) (no_alias : '|' ∉ name) (no_heading : '#' ∉ name)
    (adds : ∀ c ∈ addition.head?, c = '|' ∨ c = '#') : RefersTo path (wikiLink (name ++ addition))
  /-- A Markdown link with the path in percent coding, and maybe a fragment after it. -/
  | coded {label code fragment : Text} (unbroken : ¬ [']', '('] <:+: label) (whole : '#' ∉ code) (trimmed : code.trim = code)
    (decodes : Text.percentDecode? code = some path) (adds : ∀ c ∈ fragment.head?, c = '#') :
    RefersTo path (markdownLink label (code ++ fragment))

namespace RefersTo

variable {path reference before mark after : Text}

theorem opens (refers : RefersTo path reference) : reference.head? = some '[' := by cases refers <;> rfl

theorem closes (refers : RefersTo path reference) : ∃ c ∈ reference.getLast?, ¬ Text.isBlank c := by
  cases refers with
  | path | name => exact ⟨']', getLast?_wikiLink _, by decide⟩
  | coded => exact ⟨')', getLast?_markdownLink .., by decide⟩

/-- The target of a reference is looked up as the path. -/
theorem leadsTo_linkTarget (refers : RefersTo path reference) (plain : NoteIndex.IsPlainPath path)
    (blank : ∀ c ∈ before, Text.isBlank c) (blank' : ∀ c ∈ after, Text.isBlank c) (embeds : mark = [] ∨ mark = ['!']) :
    NoteIndex.LeadsTo (linkTarget (before ++ (mark ++ reference ++ after))) path := by
  have bare := unembedded_trim blank blank' embeds refers.opens refers.closes
  cases refers with
  | path no_alias no_heading adds =>
    have target := takeWhile_target no_alias no_heading adds
    simp only [linkTarget, bare, wikiLink?_wikiLink, target, plain.trimmed]
    exact plain.leadsTo
  | name whole trimmed lacks no_alias no_heading adds =>
    have target := takeWhile_target no_alias no_heading adds
    have leads := plain.leadsTo_of_extension whole trimmed lacks
    simp only [linkTarget, bare, wikiLink?_wikiLink, target, leads.trimmed]
    exact leads
  | @coded label code fragment unbroken whole trimmed decodes adds =>
    have target : (code ++ fragment).takeWhile (· != '#') = code := by
      refine Text.takeWhile_append_of_ends (fun c member => ?_) fun c head => ?_
      · rw [bne_iff_ne]
        exact fun same => whole (same ▸ member)
      · rw [adds c head]
        decide
    simp only [linkTarget, bare, wikiLink?_markdownLink, markdownLink?_markdownLink unbroken, target, trimmed, decodes,
      Option.getD_some]
    exact plain.leadsTo

end RefersTo

/-- A note in a folder is found from every note by every link to its path, whatever white space is around the link and
    whether or not it embeds the note. -/
theorem resolve?_linkTarget {index : NoteIndex} {path : NotePath} (listed : path ∈ index.notes)
    (plain : NoteIndex.IsPlainPath path.toList) {reference : Text} (refers : RefersTo path.toList reference)
    (before mark after : Text) (blank : ∀ c ∈ before, Text.isBlank c) (blank' : ∀ c ∈ after, Text.isBlank c)
    (embeds : mark = [] ∨ mark = ['!']) (source : NotePath) :
    index.resolve? (linkTarget (before ++ (mark ++ reference ++ after))) source = some path :=
  NoteIndex.resolve?_of_leadsTo (refers.leadsTo_linkTarget plain blank blank' embeds) listed source

/-- A path with brackets, parentheses, an exclamation mark and a percent sign in it. -/
def oddPath : NotePath := "Bücher/A [1] (50%)!.md"

/-- Notes whose paths and titles are much the same. -/
def oddNotes : NoteIndex := ⟨["A [1] (50%)!.md", "Bücher/A [1] (50%)!.md.md", oddPath]⟩

theorem resolve?_linkTarget_odd :
    oddNotes.resolve? (linkTarget " ![[Bücher/A [1] (50%)!.md#Part [2]]|the first]]\t".toList) "A [1] (50%)!.md" =
      some oddPath ∧
    oddNotes.resolve? (linkTarget "[[Bücher/A [1] (50%)!|]]".toList) "" = some oddPath ∧
    oddNotes.resolve? (linkTarget "[[x] y]](B%C3%BCcher/A%20[1]%20(50%)!.md#(c))".toList) oddPath = some oddPath := by
  have listed : oddPath ∈ oddNotes.notes := by decide
  have plain : NoteIndex.IsPlainPath oddPath.toList :=
    ⟨by decide +kernel, by decide +kernel, by decide +kernel, by decide +kernel⟩
  have embedded : RefersTo oddPath.toList (wikiLink (oddPath.toList ++ "#Part [2]]|the first".toList)) :=
    .path (by decide +kernel) (by decide +kernel) (by simp)
  have named : RefersTo oddPath.toList (wikiLink ("Bücher/A [1] (50%)!".toList ++ ['|'])) :=
    .name (by decide +kernel) (by decide +kernel) (by decide +kernel) (by decide +kernel) (by decide +kernel) (by simp)
  have coded : RefersTo oddPath.toList
      (markdownLink "[x] y]".toList ("B%C3%BCcher/A%20[1]%20(50%)!.md".toList ++ "#(c)".toList)) :=
    .coded (by decide +kernel) (by decide +kernel) (by decide +kernel) (by decide +kernel) (by simp)
  have spelled : " ![[Bücher/A [1] (50%)!.md#Part [2]]|the first]]\t".toList =
      [' '] ++ (['!'] ++ wikiLink (oddPath.toList ++ "#Part [2]]|the first".toList) ++ ['\t']) := by decide +kernel
  have spelled' : "[[Bücher/A [1] (50%)!|]]".toList =
      [] ++ ([] ++ wikiLink ("Bücher/A [1] (50%)!".toList ++ ['|']) ++ []) := by decide +kernel
  have spelled'' : "[[x] y]](B%C3%BCcher/A%20[1]%20(50%)!.md#(c))".toList =
      [] ++ ([] ++ markdownLink "[x] y]".toList ("B%C3%BCcher/A%20[1]%20(50%)!.md".toList ++ "#(c)".toList) ++ []) := by
    decide +kernel
  rw [spelled, spelled', spelled'']
  have blank : ∀ c ∈ [' '], Text.isBlank c := List.forall_mem_singleton.2 (by decide)
  have blank' : ∀ c ∈ ['\t'], Text.isBlank c := List.forall_mem_singleton.2 (by decide)
  exact ⟨resolve?_linkTarget listed plain embedded [' '] ['!'] ['\t'] blank blank' (.inr rfl) _,
    resolve?_linkTarget listed plain named [] [] [] nofun nofun (.inl rfl) _,
    resolve?_linkTarget listed plain coded [] [] [] nofun nofun (.inl rfl) _⟩

end ReadingLog
