import Brokerage.Proofs.Cookie.Header

/-!
# Looking a cookie up in a jar

A jar is looked up in the header that lists all its cookies for a URL. What it finds depends on the
cookies of that name alone, as long as the header can be read (`Held.lookup_eq`). But a single
cookie that cannot be shown, whatever its name, makes the header unreadable, and then no cookie is
found (`lookup_of_unreadable`).

So two jars whose cookies of a name are the same answer alike exactly if both or neither can be
read, or if there is nothing to be found (`lookup_of_agreement`).
-/

namespace Brokerage

namespace Jar

open Cookie (Listable)

variable {j j' : Jar} {c d : Cookie} {url : Url} {name : String}

/-! ### How a jar comes about -/

/-- The jars that there can be. They are empty at first. Cookies are set and time goes by, and in
which order a jar lists its cookies is left open. -/
inductive Held : Jar → Prop
  | empty (now : Nat) : Held { now }
  | add {j : Jar} (held : Held j) (text : String) (url : Url) : Held (j.add text url)
  | wait {j : Jar} (held : Held j) (now : Nat) : Held { j with now }
  | reorder {j : Jar} {cookies : List Cookie} (held : Held j) (perm : cookies.Perm j.cookies) :
      Held { j with cookies }

/-- A cookie that is put in is the only new one. -/
theorem mem_replaceOrAppend {cookies : List Cookie} (there : d ∈ replaceOrAppend c cookies) :
    d = c ∨ d ∈ cookies := by
  induction cookies with
  | nil => exact .inl (List.mem_singleton.mp there)
  | cons e rest ih =>
    rw [replaceOrAppend] at there
    split at there
    · rcases List.mem_cons.mp there with rfl | later
      · exact .inl rfl
      · exact .inr (List.mem_cons_of_mem _ later)
    · rcases List.mem_cons.mp there with rfl | later
      · exact .inr List.mem_cons_self
      · exact (ih later).imp_right (List.mem_cons_of_mem _)

theorem mem_insert (there : d ∈ (j.insert c url).cookies) : d = c ∨ d ∈ j.cookies := by
  rw [insert] at there
  split at there
  · exact .inr there
  split at there
  · exact .inr (List.mem_filter.mp there).1
  · exact mem_replaceOrAppend there

/-- **Every cookie in a jar has a name and a value that a pair can have.** -/
theorem Held.listable (held : Held j) : ∀ c ∈ j.cookies, Listable c.name c.value := by
  induction held with
  | empty now => exact nofun
  | @add j held text url ih =>
    intro c there
    rw [Jar.add] at there
    split at there
    · next d set =>
      rcases mem_insert there with rfl | old
      · exact Cookie.listable_of_ofSetting? set
      · exact ih c old
    · exact ih c there
  | wait held now ih => exact ih
  | reorder held perm ih =>
    intro c there
    exact ih c (perm.mem_iff.mp there)

/-! ### What is found -/

/-- The values of the cookies of a name that go to a URL, in the order in which they are listed. -/
def valuesOf (j : Jar) (url : Url) (name : String) : List String :=
  ((j.sentTo url).filter (·.name == name)).map Cookie.value

/-- True if all cookies that go to a URL can be shown. -/
def IsReadable (j : Jar) (url : Url) : Prop :=
  ∀ c ∈ j.sentTo url, IsShown c

instance (j : Jar) (url : Url) : Decidable (j.IsReadable url) := List.decidableBAll _ (j.sentTo url)

/-- **A jar that can be read gives the first cookie of the name**, unless its value is empty. -/
theorem Held.lookup_eq (held : Held j) (readable : j.IsReadable url) (name : String) :
    j.lookup url name = firstValue? (j.valuesOf url name) := by
  have listable : ∀ c ∈ j.sentTo url, Listable c.name c.value := by
    intro c there
    exact held.listable c (List.mem_filter.mp there).1
  rw [lookup, if_pos (header_all_isPlain_iff.mpr readable), inHeader?_header listable, valuesOf]

/-- **A jar that cannot be read gives nothing**, whatever its cookies of the name are. -/
theorem lookup_of_unreadable (unreadable : ¬ j.IsReadable url) (name : String) :
    j.lookup url name = none := by
  rw [lookup, if_neg fun plain => unreadable (header_all_isPlain_iff.mp plain)]

/-- What two jars answer whose cookies of a name are the same. -/
structure Answers (j j' : Jar) (url : Url) (name : String) : Prop where
  /-- A jar that can be read gives the first of these cookies, unless its value is empty. -/
  first : j.IsReadable url → j.lookup url name = firstValue? (j.valuesOf url name)
  /-- If there is one of them, it gives its value. -/
  single : j.IsReadable url → ∀ value, j.valuesOf url name = [value] → value ≠ "" →
    j.lookup url name = some value
  /-- A jar that cannot be read gives nothing. -/
  unreadable : ¬ j.IsReadable url → j.lookup url name = none
  /-- Whatever other cookies they hold, two jars that can be read give the same. -/
  same : j.IsReadable url → j'.IsReadable url → j.lookup url name = j'.lookup url name
  /-- They give the same exactly if both of them can be read, or neither, or if there is
  nothing to be found. -/
  same_iff : j.lookup url name = j'.lookup url name ↔
    ((j.IsReadable url ↔ j'.IsReadable url) ∨ firstValue? (j.valuesOf url name) = none)

/-- **What a jar gives depends on the cookies of the name, and on whether all its cookies can be
shown.** Two jars have the same cookies of a name for a URL, in the same order. They answer alike
if all cookies that go to the URL can be shown, whatever the others are. -/
theorem lookup_of_agreement (held : Held j) (held' : Held j')
    (agree : j.valuesOf url name = j'.valuesOf url name) : Answers j j' url name := by
  have first : j.IsReadable url → _ := fun readable => held.lookup_eq readable name
  have first' : j'.IsReadable url → j'.lookup url name = firstValue? (j.valuesOf url name) := by
    intro readable
    rw [agree]
    exact held'.lookup_eq readable name
  have nothing : ¬ j.IsReadable url → _ := fun unreadable => lookup_of_unreadable unreadable name
  have nothing' : ¬ j'.IsReadable url → _ := fun unreadable => lookup_of_unreadable unreadable name
  refine ⟨first, fun readable value one filled => ?_, nothing, fun readable readable' => ?_, ?_⟩
  · rw [first readable, one]
    exact if_neg filled
  · rw [first readable, first' readable']
  · by_cases readable : j.IsReadable url <;> by_cases readable' : j'.IsReadable url
    · rw [first readable, first' readable']
      exact iff_of_true rfl (.inl (iff_of_true readable readable'))
    · -- only the other jar hides what there is
      rw [first readable, nothing' readable', iff_false_right readable']
      exact (or_iff_right (not_not_intro readable)).symm
    · rw [nothing readable, first' readable', eq_comm, iff_true_right readable']
      exact (or_iff_right readable).symm
    · rw [nothing readable, nothing' readable']
      exact iff_of_true rfl (.inl (iff_of_false readable readable'))

namespace Sample

/-- The interface of a backend. -/
def base : Url where
  scheme := "https"
  authority := some ⟨"", none, .named "app.example.com", none⟩
  path := .rooted ["api", "v1", ""]
  query := none
  fragment := none

/-- A jar with a token. -/
def tokenJar : Jar :=
  ({ now := 0 } : Jar).add "csrf_token=a=b" base

theorem held_tokenJar : Held tokenJar := (Held.empty 0).add _ _

end Sample

/-- Another cookie is set, with signs and quotes in its value, and its name ends like that of the
token. The token is found all the same. -/
theorem lookup_of_agreement_quoted :
    let j := (Sample.tokenJar.add "x_csrf_token=\"csrf_token=c\"; Path=/" Sample.base)
    j.valuesOf Sample.base "csrf_token" = Sample.tokenJar.valuesOf Sample.base "csrf_token" ∧
      j.sentTo Sample.base ≠ Sample.tokenJar.sentTo Sample.base ∧
      j.lookup Sample.base "csrf_token" = some "a=b" := by
  have agree : (Sample.tokenJar.add "x_csrf_token=\"csrf_token=c\"; Path=/" Sample.base).valuesOf
      Sample.base "csrf_token" = Sample.tokenJar.valuesOf Sample.base "csrf_token" := by
    decide
  have one : (Sample.tokenJar.add "x_csrf_token=\"csrf_token=c\"; Path=/" Sample.base).valuesOf
      Sample.base "csrf_token" = ["a=b"] := by
    decide
  have readable : (Sample.tokenJar.add
      "x_csrf_token=\"csrf_token=c\"; Path=/" Sample.base).IsReadable Sample.base := by
    decide
  have answers := lookup_of_agreement (Sample.held_tokenJar.add _ _) Sample.held_tokenJar agree
  exact ⟨agree, by decide, answers.single readable "a=b" one (by decide)⟩

/-- **One cookie hides all others.** A jar holds a token, and another jar holds it too, beside a
cookie with a letter beyond ASCII. The first one gives the token and the second one does not. -/
theorem lookup_hidden :
    ∃ j j' : Jar, Held j ∧ Held j' ∧
      j.valuesOf Sample.base "csrf_token" = j'.valuesOf Sample.base "csrf_token" ∧
      j'.valuesOf Sample.base "theme" = ["é"] ∧
      j.lookup Sample.base "csrf_token" = some "a=b" ∧ j'.lookup Sample.base "csrf_token" = none :=
  ⟨Sample.tokenJar, Sample.tokenJar.add "theme=é" Sample.base, Sample.held_tokenJar,
    Sample.held_tokenJar.add _ _, by decide, by decide, by decide,
    by decide⟩

end Jar

end Brokerage
