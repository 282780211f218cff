import MediaControl.Proofs.Header.Canonical
import MediaControl.Proofs.Header.Naming

/-!
# Headers that are edited (SPEC_FULL §3)

Headers are set, found and taken away by their names, in any case, and each of the three has to do with
the first header of the name alone.  So headers that were made by setting and taking away have no name
twice.  A header among them has the value that was set last under its name, and the place and the
spelling that it got when it was set first, since a header of the name was last taken away.

Main statements: `IsFirst.set` and `IsFirst.erase` (what an edit does to any headers), `lastSet_concat`
and `firstSet_concat` (what an edit does to the past), `Kept.edit` (what stays so with one more edit) and
`edited_in_order`.
-/

set_option autoImplicit false

namespace MediaControl

theorem Header.resolve_renamed {h : Header} {name : String}
    (hname : Text.sameCaseless name h.name = true) : (h.renamed name).resolve = h.resolve := by
  rcases h with ⟨own, raw, given⟩
  cases given with
  | none => exact Catalogue.read_congr hname raw
  | some value => rfl

theorem Header.hasName_congr {name other : String} (hname : Text.sameCaseless name other = true)
    (h : Header) : h.hasName name = h.hasName other :=
  Text.sameCaseless_congr hname h.name

namespace Headers

variable {hs front back : Headers} {name other : String} {line h : Header}

/-! ## The first header of a name -/

/-- The line is the first header of the name, and stands between the two parts of the others. -/
structure IsFirst (hs : Headers) (name : String) (front : Headers) (line : Header) (back : Headers) :
    Prop where
  eq : hs = front ++ line :: back
  hasName : line.hasName name = true
  others : ∀ h ∈ front, h.hasName name = false

theorem get?_eq_some_iff :
    Headers.get? hs name = some line ↔ ∃ front back, IsFirst hs name front line back := by
  rw [Headers.get?, List.find?_eq_some_iff_append]
  constructor
  · rintro ⟨hname, front, back, heq, hothers⟩
    exact ⟨front, back, heq, hname, fun h hh => by simpa using hothers h hh⟩
  · rintro ⟨front, back, heq, hname, hothers⟩
    exact ⟨hname, front, back, heq, fun h hh => by simpa using hothers h hh⟩

theorem get?_eq_none_iff : Headers.get? hs name = none ↔ ∀ h ∈ hs, h.hasName name = false := by
  simp [Headers.get?]

/-- There is a first header of the name, or none. -/
theorem isFirst_or_none (hs : Headers) (name : String) :
    (∃ front line back, IsFirst hs name front line back) ∨ ∀ h ∈ hs, h.hasName name = false := by
  cases hget : Headers.get? hs name with
  | none => exact .inr (get?_eq_none_iff.mp hget)
  | some line =>
      obtain ⟨front, back, hfirst⟩ := get?_eq_some_iff.mp hget
      exact .inl ⟨front, line, back, hfirst⟩

/-- Only the first header of the name is taken away. -/
theorem IsFirst.erase (hfirst : IsFirst hs name front line back) :
    Headers.erase hs name = front ++ back := by
  have hfront : ∀ h ∈ front, ¬ h.hasName name = true := by
    intro h hh
    rw [hfirst.others h hh]
    exact Bool.false_ne_true
  rw [hfirst.eq, Headers.erase, List.eraseP_append_right _ hfront]
  exact congrArg (front ++ ·) (List.eraseP_cons_of_pos (p := fun h : Header => h.hasName name)
    hfirst.hasName)

theorem erase_of_none (hnone : ∀ h ∈ hs, h.hasName name = false) : Headers.erase hs name = hs := by
  refine List.eraseP_of_forall_not fun h hh => ?_
  rw [hnone h hh]
  exact Bool.false_ne_true

/-- Only the first header of the name is replaced, and its spelling stays. -/
theorem IsFirst.set (hfirst : IsFirst hs h.name front line back) :
    Headers.set hs h = front ++ h.renamed line.name :: back := by
  obtain ⟨rfl, hname, hothers⟩ := hfirst
  induction front with
  | nil => rw [List.nil_append, Headers.set, if_pos hname, List.nil_append]
  | cons old front ih =>
      obtain ⟨hold, hrest⟩ := List.forall_mem_cons.mp hothers
      have hpass : ¬ old.hasName h.name = true := by
        rw [hold]
        exact Bool.false_ne_true
      rw [List.cons_append, Headers.set, if_neg hpass, ih hrest, List.cons_append]

theorem set_of_none (hnone : ∀ old ∈ hs, old.hasName h.name = false) :
    Headers.set hs h = hs ++ [h] := by
  apply set_of_not_contains
  rw [Headers.contains, get?_eq_none_iff.mpr hnone]
  rfl

/-! ## Other names -/

theorem get?_congr (hname : Text.sameCaseless name other = true) (hs : Headers) :
    Headers.get? hs name = Headers.get? hs other := by
  simp only [Headers.get?, Header.hasName_congr hname]

theorem get?_set_self (hs : Headers) (hname : h.hasName name = true) :
    ∃ line, Headers.get? (Headers.set hs h) name = some line ∧ line.raw = h.raw ∧
      line.resolve = h.resolve := by
  obtain ⟨spelling, hsame, hget⟩ := get?_set hs h
  have hsameName : Text.sameCaseless h.name name = true := hname
  rw [get?_congr hsameName] at hget
  exact ⟨h.renamed spelling, hget, rfl, Header.resolve_renamed hsame⟩

/-- To set a header changes nothing under other names. -/
theorem get?_set_of_ne (hs : Headers) (hname : h.hasName name = false) :
    Headers.get? (Headers.set hs h) name = Headers.get? hs name := by
  induction hs with
  | nil =>
      rw [Headers.set, get?_cons, hname, if_neg Bool.false_ne_true]
  | cons old rest ih =>
      rw [Headers.set]
      split
      · rename_i hold
        -- the header that is replaced does not have the other name either
        have hpass : old.hasName name = false := Text.sameCaseless_eq_false hold hname
        have hpass' : (h.renamed old.name).hasName name = false := hpass
        rw [get?_cons, get?_cons, hpass, hpass', if_neg Bool.false_ne_true, if_neg Bool.false_ne_true]
      · rw [get?_cons, get?_cons, ih]

theorem get?_erase_of_ne (hs : Headers) (hname : Text.sameCaseless name other = false) :
    Headers.get? (Headers.erase hs name) other = Headers.get? hs other := by
  rcases isFirst_or_none hs name with ⟨front, line, back, hfirst⟩ | hnone
  · have hpass : line.hasName other = false := Text.sameCaseless_eq_false hfirst.hasName hname
    rw [hfirst.erase, hfirst.eq, Headers.get?, Headers.get?, List.find?_append, List.find?_append,
      List.find?_cons, hpass]
  · rw [erase_of_none hnone]

/-! ## Edits -/

/-- A change of the headers of a message. -/
inductive Edit where
  | set (h : Header)
  | erase (name : String)

namespace Edit

/-- The edit sets a header of the name or takes one away. -/
def concerns : Edit → String → Bool
  | set h, name => h.hasName name
  | erase other, name => Text.sameCaseless other name

/-- The edit takes a header of the name away. -/
def erases : Edit → String → Bool
  | set _, _ => false
  | erase other, name => Text.sameCaseless other name

end Edit

/-- The headers after an edit. -/
def edit (hs : Headers) : Edit → Headers
  | .set h => Headers.set hs h
  | .erase name => Headers.erase hs name

/-- The headers that edits make where there were none. -/
def edited (es : List Edit) : Headers := es.foldl edit []

/-- The header was set under the name, and nothing was done under the name since. -/
def LastSet (es : List Edit) (name : String) (h : Header) : Prop :=
  ∃ before after, es = before ++ .set h :: after ∧ h.hasName name = true ∧
    ∀ e ∈ after, e.concerns name = false

/-- The edit with the number set the header under the name when there was none, and none was taken away
since. -/
def FirstSet (es : List Edit) (name : String) (number : Nat) (h : Header) : Prop :=
  ∃ before after, es = before ++ .set h :: after ∧ before.length = number ∧
    h.hasName name = true ∧ (∀ old, ¬ LastSet before name old) ∧
    ∀ e ∈ after, e.erases name = false

variable {es before after : List Edit} {e : Edit} {number : Nat}

theorem concerns_congr (hname : Text.sameCaseless name other = true) (e : Edit) :
    e.concerns name = e.concerns other := by
  cases e with
  | set h => exact Header.hasName_congr hname h
  | erase taken => exact Text.sameCaseless_congr hname taken

/-- The last of the edits is the one in question, or comes after it. -/
theorem concat_eq_append_cons {x : Edit} (heq : es ++ [e] = before ++ x :: after) :
    (after = [] ∧ es = before ∧ e = x) ∨
      ∃ rest, after = rest ++ [e] ∧ es = before ++ x :: rest := by
  rcases List.eq_nil_or_concat after with rfl | ⟨rest, last, rfl⟩
  · obtain ⟨hes, he⟩ := List.append_inj' heq rfl
    exact .inl ⟨rfl, hes, List.singleton_inj.mp he⟩
  · rw [List.concat_eq_append, ← List.cons_append, ← List.append_assoc] at heq
    obtain ⟨hes, he⟩ := List.append_inj' heq rfl
    exact .inr ⟨rest, by rw [List.concat_eq_append, List.singleton_inj.mp he], hes⟩

/-- What was set last stays so unless the next edit is under the name; and if that sets a header, this
is it. -/
theorem lastSet_concat :
    LastSet (es ++ [e]) name h ↔
      (LastSet es name h ∧ e.concerns name = false) ∨ (e = .set h ∧ h.hasName name = true) := by
  constructor
  · rintro ⟨before, after, heq, hname, hafter⟩
    rcases concat_eq_append_cons heq with ⟨rfl, rfl, rfl⟩ | ⟨rest, rfl, rfl⟩
    · exact .inr ⟨rfl, hname⟩
    · rw [List.forall_mem_append, List.forall_mem_singleton] at hafter
      exact .inl ⟨⟨before, rest, rfl, hname, hafter.1⟩, hafter.2⟩
  · rintro (⟨⟨before, after, rfl, hname, hafter⟩, he⟩ | ⟨rfl, hname⟩)
    · refine ⟨before, after ++ [e], by simp, hname, ?_⟩
      rw [List.forall_mem_append, List.forall_mem_singleton]
      exact ⟨hafter, he⟩
    · exact ⟨es, [], rfl, hname, List.forall_mem_nil _⟩

/-- What was set first stays so unless the next edit takes it away; and if that sets a header where there
was none, this is it. -/
theorem firstSet_concat :
    FirstSet (es ++ [e]) name number h ↔
      (FirstSet es name number h ∧ e.erases name = false) ∨
      (number = es.length ∧ e = .set h ∧ h.hasName name = true ∧
        ∀ old, ¬ LastSet es name old) := by
  constructor
  · rintro ⟨before, after, heq, hnumber, hname, hbefore, hafter⟩
    rcases concat_eq_append_cons heq with ⟨rfl, rfl, rfl⟩ | ⟨rest, rfl, rfl⟩
    · exact .inr ⟨hnumber.symm, rfl, hname, hbefore⟩
    · rw [List.forall_mem_append, List.forall_mem_singleton] at hafter
      exact .inl ⟨⟨before, rest, rfl, hnumber, hname, hbefore, hafter.1⟩, hafter.2⟩
  · rintro (⟨hfirst, he⟩ | ⟨rfl, rfl, hname, hbefore⟩)
    · obtain ⟨before, after, rfl, hnumber, hname, hbefore, hafter⟩ := hfirst
      refine ⟨before, after ++ [e], by simp, hnumber, hname, hbefore, ?_⟩
      rw [List.forall_mem_append, List.forall_mem_singleton]
      exact ⟨hafter, he⟩
    · exact ⟨es, [], rfl, rfl, hname, hbefore, List.forall_mem_nil _⟩

theorem FirstSet.lt_length (hfirst : FirstSet es name number h) : number < es.length := by
  obtain ⟨before, after, rfl, rfl, -⟩ := hfirst
  simp

/-- Where a header was set first, one was set last. -/
theorem FirstSet.exists_lastSet (hfirst : FirstSet es name number h) :
    ∃ last, LastSet es name last := by
  induction es using List.reverseRecOn with
  | nil => exact absurd hfirst.lt_length (Nat.not_lt_zero _)
  | append_singleton es e ih =>
      rcases firstSet_concat.mp hfirst with ⟨hbefore, herases⟩ | ⟨-, rfl, hname, -⟩
      · cases hconcerns : e.concerns name with
        | false =>
            obtain ⟨last, hlast⟩ := ih hbefore
            exact ⟨last, lastSet_concat.mpr (.inl ⟨hlast, hconcerns⟩)⟩
        | true =>
            cases e with
            | set h => exact ⟨h, lastSet_concat.mpr (.inr ⟨rfl, hconcerns⟩)⟩
            | erase other => exact Bool.noConfusion (hconcerns.symm.trans herases)
      · exact ⟨_, lastSet_concat.mpr (.inr ⟨rfl, hname⟩)⟩

/-- An edit under other names leaves alone what was set first. -/
theorem firstSet_concat_of_not_concerns (he : e.concerns name = false) :
    FirstSet (es ++ [e]) name number h ↔ FirstSet es name number h := by
  rw [firstSet_concat]
  constructor
  · rintro (⟨hfirst, -⟩ | ⟨-, rfl, hname, -⟩)
    · exact hfirst
    · exact Bool.noConfusion (he.symm.trans hname)
  · intro hfirst
    refine .inl ⟨hfirst, ?_⟩
    cases e with
    | set h => rfl
    | erase other => exact he

/-- What was set first stays so when a header of a name is set that was set before. -/
theorem firstSet_concat_set {old : Header} (hlast : LastSet es h.name old) {first : Header} :
    FirstSet (es ++ [.set h]) name number first ↔ FirstSet es name number first := by
  rw [firstSet_concat]
  constructor
  · rintro (⟨hfirst, -⟩ | ⟨-, heq, hname, hnone⟩)
    · exact hfirst
    · cases heq
      obtain ⟨before, after, rfl, hold, hafter⟩ := hlast
      refine absurd ⟨before, after, rfl, ?_, fun e he => ?_⟩ (hnone old)
      · exact Text.sameCaseless_trans hold hname
      · exact (concerns_congr hname e).symm.trans (hafter e he)
  · exact fun hfirst => .inl ⟨hfirst, rfl⟩

/-! ## What edits make -/

/-- The headers are what the edits say: one for every name that was set and not taken away since, as it
was set last, in the order and the spelling in which they were set first. -/
structure Kept (es : List Edit) (hs : Headers) : Prop where
  distinct : (hs.map Header.name).Pairwise fun a b => Text.sameCaseless a b = false
  found : ∀ name h, LastSet es name h →
    ∃ line, Headers.get? hs name = some line ∧ line.raw = h.raw ∧ line.resolve = h.resolve
  absent : ∀ name, (∀ h, ¬ LastSet es name h) → Headers.get? hs name = none
  spelled : ∀ name ∈ hs.map Header.name, ∃ number h, FirstSet es name number h ∧ h.name = name
  ordered : (hs.map Header.name).Pairwise fun a b =>
    ∀ m n g h, FirstSet es a m g → FirstSet es b n h → m < n

theorem map_name_set (hfirst : IsFirst hs h.name front line back) :
    (Headers.set hs h).map Header.name = hs.map Header.name := by
  rw [hfirst.set, hfirst.eq, List.map_append, List.map_append]
  rfl

/-- Among headers of different names, none of the name is left after one was taken away. -/
theorem hasName_of_mem_erase
    (hdistinct : (hs.map Header.name).Pairwise fun a b => Text.sameCaseless a b = false) :
    ∀ h ∈ Headers.erase hs name, h.hasName name = false := by
  rcases isFirst_or_none hs name with ⟨front, line, back, hfirst⟩ | hnone
  · intro h hh
    rw [hfirst.erase, List.mem_append] at hh
    rcases hh with hfront | hback
    · exact hfirst.others h hfront
    · rw [hfirst.eq, List.map_append, List.map_cons, List.pairwise_append, List.pairwise_cons]
        at hdistinct
      have hother : Text.sameCaseless line.name h.name = false :=
        hdistinct.2.1.1 h.name (List.mem_map_of_mem hback)
      have hsame : Text.sameCaseless name line.name = true :=
        (Text.sameCaseless_comm ..).trans hfirst.hasName
      exact (Text.sameCaseless_comm ..).trans (Text.sameCaseless_eq_false hsame hother)
  · rw [erase_of_none hnone]
    exact hnone

namespace Kept

theorem nil : Kept [] [] where
  distinct := List.Pairwise.nil
  found _ _ hlast := by
    obtain ⟨before, after, heq, -⟩ := hlast
    cases before <;> cases heq
  absent _ _ := rfl
  spelled _ hname := absurd hname List.not_mem_nil
  ordered := List.Pairwise.nil

theorem found_set (hkept : Kept es hs) {last : Header} (hlast : LastSet (es ++ [.set h]) name last) :
    ∃ line, Headers.get? (Headers.set hs h) name = some line ∧ line.raw = last.raw ∧
      line.resolve = last.resolve := by
  rcases lastSet_concat.mp hlast with ⟨hbefore, hname⟩ | ⟨heq, hname⟩
  · rw [get?_set_of_ne hs hname]
    exact hkept.found name last hbefore
  · cases heq
    exact get?_set_self hs hname

theorem absent_set (hkept : Kept es hs) (hnone : ∀ last, ¬ LastSet (es ++ [.set h]) name last) :
    Headers.get? (Headers.set hs h) name = none := by
  cases hname : h.hasName name with
  | true => exact absurd (lastSet_concat.mpr (.inr ⟨rfl, hname⟩)) (hnone h)
  | false =>
      rw [get?_set_of_ne hs hname]
      exact hkept.absent name fun last hlast =>
        hnone last (lastSet_concat.mpr (.inl ⟨hlast, hname⟩))

theorem exists_lastSet (hkept : Kept es hs) (hget : Headers.get? hs name = some line) :
    ∃ last, LastSet es name last := by
  by_contra hnone
  rw [hkept.absent name (not_exists.mp hnone)] at hget
  cases hget

/-- A header of a name that is there already takes over place and spelling. -/
theorem set_of_isFirst (hkept : Kept es hs) (hfirst : IsFirst hs h.name front line back) :
    Kept (es ++ [.set h]) (Headers.set hs h) := by
  obtain ⟨old, hlast⟩ := hkept.exists_lastSet (get?_eq_some_iff.mpr ⟨front, back, hfirst⟩)
  constructor
  case distinct =>
    rw [map_name_set hfirst]
    exact hkept.distinct
  case found => exact fun name last => hkept.found_set
  case absent => exact fun name => hkept.absent_set
  case spelled =>
    rw [map_name_set hfirst]
    intro name hname
    obtain ⟨number, first, hset, hspelling⟩ := hkept.spelled name hname
    exact ⟨number, first, (firstSet_concat_set hlast).mpr hset, hspelling⟩
  case ordered =>
    rw [map_name_set hfirst]
    simpa only [firstSet_concat_set hlast] using hkept.ordered

/-- A header of a name that is not there comes last. -/
theorem set_of_none (hkept : Kept es hs) (hnone : ∀ old ∈ hs, old.hasName h.name = false) :
    Kept (es ++ [.set h]) (Headers.set hs h) := by
  have hnames : (Headers.set hs h).map Header.name = hs.map Header.name ++ [h.name] := by
    rw [Headers.set_of_none hnone, List.map_append, List.map_singleton]
  have hother : ∀ name ∈ hs.map Header.name, Text.sameCaseless name h.name = false := by
    rw [List.forall_mem_map]
    exact hnone
  have hpass : ∀ name ∈ hs.map Header.name, (Edit.set h).concerns name = false := fun name hname =>
    (Text.sameCaseless_comm ..).trans (hother name hname)
  have hfresh : ∀ last, ¬ LastSet es h.name last := by
    intro last hlast
    obtain ⟨line, hget, -⟩ := hkept.found _ _ hlast
    rw [get?_eq_none_iff.mpr hnone] at hget
    cases hget
  constructor
  case distinct =>
    rw [hnames, List.pairwise_append]
    refine ⟨hkept.distinct, List.pairwise_singleton .., fun a ha b hb => ?_⟩
    rw [List.mem_singleton.mp hb]
    exact hother a ha
  case found => exact fun name last => hkept.found_set
  case absent => exact fun name => hkept.absent_set
  case spelled =>
    rw [hnames, List.forall_mem_append, List.forall_mem_singleton]
    constructor
    · intro name hname
      obtain ⟨number, first, hset, hspelling⟩ := hkept.spelled name hname
      exact ⟨number, first, (firstSet_concat_of_not_concerns (hpass name hname)).mpr hset, hspelling⟩
    · refine ⟨es.length, h, firstSet_concat.mpr (.inr ⟨rfl, rfl, ?_, hfresh⟩), rfl⟩
      exact Text.sameCaseless_refl _
  case ordered =>
    rw [hnames, List.pairwise_append]
    refine ⟨hkept.ordered.imp_of_mem fun ha hb hab m n f g hf hg => ?_, List.pairwise_singleton ..,
      fun a ha b hb m n f g hf hg => ?_⟩
    · rw [firstSet_concat_of_not_concerns (hpass _ ha)] at hf
      rw [firstSet_concat_of_not_concerns (hpass _ hb)] at hg
      exact hab m n f g hf hg
    · -- the new name was not set before, so it was set first now
      rw [List.mem_singleton.mp hb, firstSet_concat] at hg
      rw [firstSet_concat_of_not_concerns (hpass _ ha)] at hf
      rcases hg with ⟨hold, -⟩ | ⟨rfl, -⟩
      · obtain ⟨last, hlast⟩ := hold.exists_lastSet
        exact absurd hlast (hfresh last)
      · exact hf.lt_length

/-- When a header is taken away, its name is gone and all others stay. -/
theorem erase (hkept : Kept es hs) (name : String) :
    Kept (es ++ [.erase name]) (Headers.erase hs name) := by
  have hsub : ((Headers.erase hs name).map Header.name).Sublist (hs.map Header.name) :=
    List.eraseP_sublist.map _
  have hgone : ∀ h ∈ Headers.erase hs name, h.hasName name = false :=
    hasName_of_mem_erase hkept.distinct
  have hpass : ∀ other ∈ (Headers.erase hs name).map Header.name,
      (Edit.erase name).concerns other = false := by
    rw [List.forall_mem_map]
    exact fun h hh => (Text.sameCaseless_comm ..).trans (hgone h hh)
  constructor
  case distinct => exact hkept.distinct.sublist hsub
  case found =>
    intro other last hlast
    rcases lastSet_concat.mp hlast with ⟨hbefore, hother⟩ | ⟨heq, -⟩
    · rw [get?_erase_of_ne hs hother]
      exact hkept.found other last hbefore
    · cases heq
  case absent =>
    intro other hnone
    cases hother : Text.sameCaseless name other with
    | true =>
        rw [← get?_congr hother]
        exact get?_eq_none_iff.mpr hgone
    | false =>
        rw [get?_erase_of_ne hs hother]
        exact hkept.absent other fun last hlast =>
          hnone last (lastSet_concat.mpr (.inl ⟨hlast, hother⟩))
  case spelled =>
    intro other hother
    obtain ⟨number, first, hset, hspelling⟩ := hkept.spelled other (hsub.subset hother)
    exact ⟨number, first, (firstSet_concat_of_not_concerns (hpass other hother)).mpr hset, hspelling⟩
  case ordered =>
    refine (hkept.ordered.sublist hsub).imp_of_mem fun ha hb hab m n f g hf hg => ?_
    rw [firstSet_concat_of_not_concerns (hpass _ ha)] at hf
    rw [firstSet_concat_of_not_concerns (hpass _ hb)] at hg
    exact hab m n f g hf hg

theorem edit (hkept : Kept es hs) (e : Edit) : Kept (es ++ [e]) (hs.edit e) := by
  cases e with
  | set h =>
      rcases isFirst_or_none hs h.name with ⟨front, line, back, hfirst⟩ | hnone
      · exact hkept.set_of_isFirst hfirst
      · exact hkept.set_of_none hnone
  | erase name => exact hkept.erase name

end Kept

theorem kept_edited (es : List Edit) : Kept es (edited es) := by
  induction es using List.reverseRecOn with
  | nil => exact Kept.nil
  | append_singleton es e ih =>
      rw [edited, List.foldl_concat]
      exact ih.edit e

theorem IsFirst.congr (hfirst : IsFirst hs name front line back)
    (hname : Text.sameCaseless name other = true) : IsFirst hs other front line back where
  eq := hfirst.eq
  hasName := (Header.hasName_congr hname line).symm.trans hfirst.hasName
  others h hh := (Header.hasName_congr hname h).symm.trans (hfirst.others h hh)

/-- What the three do to any headers under a name: where there are headers of the name, the first one is
found, taken away or replaced, and all others stay where they are; where there are none, nothing is
found or taken away, and a header that is set comes last. -/
inductive ByFirst (hs : Headers) (name : String) : Prop where
  | first {front : Headers} {line : Header} {back : Headers}
      (isFirst : IsFirst hs name front line back)
      (get : Headers.get? hs name = some line)
      (erase : Headers.erase hs name = front ++ back)
      (set : ∀ h : Header, h.hasName name = true →
        Headers.set hs h = front ++ h.renamed line.name :: back)
  | none
      (others : ∀ h ∈ hs, h.hasName name = false)
      (get : Headers.get? hs name = none)
      (erase : Headers.erase hs name = hs)
      (set : ∀ h : Header, h.hasName name = true → Headers.set hs h = hs ++ [h])

theorem byFirst (hs : Headers) (name : String) : ByFirst hs name := by
  rcases isFirst_or_none hs name with ⟨front, line, back, hfirst⟩ | hnone
  · refine .first hfirst (get?_eq_some_iff.mpr ⟨front, back, hfirst⟩) hfirst.erase fun h hname => ?_
    exact (hfirst.congr ((Text.sameCaseless_comm ..).trans hname)).set
  · refine .none hnone (get?_eq_none_iff.mpr hnone) (erase_of_none hnone) fun h hname => ?_
    refine Headers.set_of_none fun old hold => ?_
    rw [Header.hasName_congr hname old]
    exact hnone old hold

/-- Headers are an ordered map by their names, whatever the case.  Edits of no headers keep one header
of each name that was set, with what it was set to last, in the order and the spelling of what was set
first.  On any headers at all, with names that come twice, each of the three has to do with the first
header of the name alone, and a header that was set is found with its text and its value. -/
theorem edited_in_order :
    (∀ es, Kept es (edited es)) ∧
    (∀ hs name, ByFirst hs name) ∧
    ∀ hs h, ∃ line, Headers.get? (Headers.set hs h) h.name = some line ∧ line.raw = h.raw ∧
      line.resolve = h.resolve :=
  ⟨kept_edited, byFirst, fun hs h => get?_set_self hs (Text.sameCaseless_refl h.name)⟩

/-- A name that was taken away comes last when it is set again, and in the spelling it then gets. -/
example : (edited [.set ⟨"Speech-Language", "en", none⟩, .set ⟨"Vendor", "1", none⟩,
    .set ⟨"speech-language", "de", none⟩, .erase "VENDOR", .set ⟨"Fetch-Timeout", "9", none⟩,
    .set ⟨"vendor", "2", none⟩]).map Header.line =
    ["Speech-Language:de", "Fetch-Timeout:9", "vendor:2"] := by decide

end Headers

end MediaControl
