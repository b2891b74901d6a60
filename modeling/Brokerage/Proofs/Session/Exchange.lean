import Brokerage.Session.Request

/-!
# What goes to the backend and what comes back

Whether an attempt can be put together depends on the request and the settings alone, not on the
cookies and the identifier: a request that was sent once can be sent again. What is put together
depends on the identifier in one header only, so two attempts with the same cookies are the same but
for it (`build_anonymous`, `buildRenewal_anonymous`).

Of what comes back, the status says whether it is a success, and the body is empty for whoever
cannot read it.
-/

namespace Brokerage

variable {config : Config} {source : CookieSource} {id : RequestId}

namespace Request

variable {r : Request} {o : Outgoing}

/-- An attempt can be put together exactly if there is a URL for it and a header can hold the type
of its body. -/
theorem build_eq_ok_iff : r.build config source id = .ok o ↔
    ∃ url headers, r.url config = .ok url ∧ r.typeHeaders = .ok headers ∧
      o = { method := r.method
            url := url
            headers := headers ++ decoration config source id r.method url
            content := r.body.map Body.content
            timeout := config.timeouts.ceiling r.category } := by
  rw [build]
  cases r.url config with
  | error fault => simp
  | ok url =>
    cases r.typeHeaders with
    | error fault => simp
    | ok headers => simp [eq_comm]

/-- What can be put together with some cookies and some identifier can be put together with any. -/
theorem exists_build_eq_ok (h : r.build config source id = .ok o) (source' : CookieSource)
    (id' : RequestId) : ∃ o', r.build config source' id' = .ok o' := by
  obtain ⟨url, headers, hu, ht, -⟩ := build_eq_ok_iff.mp h
  exact ⟨_, build_eq_ok_iff.mpr ⟨url, headers, hu, ht, rfl⟩⟩

end Request

/-- What goes to the backend, without the identifier of the attempt. -/
def Outgoing.anonymous (o : Outgoing) : Outgoing :=
  { o with headers := o.headers.filter (·.1 != Request.idHeader) }

namespace Request

theorem decoration_anonymous (config : Config) (source : CookieSource) (id id' : RequestId)
    (method : String) (url : Url) :
    (decoration config source id method url).filter (·.1 != idHeader) =
      (decoration config source id' method url).filter (·.1 != idHeader) := by
  simp [decoration]

/-- The identifier is all in which two attempts with the same cookies differ. -/
theorem build_anonymous (r : Request) (config : Config) (source : CookieSource)
    (id id' : RequestId) :
    (r.build config source id).map Outgoing.anonymous =
      (r.build config source id').map Outgoing.anonymous := by
  rw [build, build]
  cases r.url config with
  | error fault => rfl
  | ok url =>
    cases r.typeHeaders with
    | error fault => rfl
    | ok headers =>
      simp only [Except.map, Outgoing.anonymous, List.filter_append,
        decoration_anonymous config source id id']

/-- The identifier is all in which two renewals with the same cookies differ. -/
theorem buildRenewal_anonymous (config : Config) (source : CookieSource) (url : Url)
    (id id' : RequestId) :
    (buildRenewal config source url id).anonymous =
      (buildRenewal config source url id').anonymous := by
  simp only [buildRenewal, Outgoing.anonymous, decoration_anonymous config source id id']

end Request

namespace Response

/-- Success is a status from 200 up to, and not with, 300. -/
theorem isSuccess_iff {x : Response} : x.isSuccess = true ↔ 200 ≤ x.status ∧ x.status < 300 := by
  rw [isSuccess, Bool.and_eq_true, decide_eq_true_eq, decide_eq_true_eq]

/-- What cannot be read is read as nothing. -/
theorem text_eq (x : Response) : x.text = (x.body.map Text.decodeLossy).getD "" := by
  rw [text]
  cases x.body with
  | none => simp [Text.decodeLossy, Text.decodeLossyChars]
  | some body => rfl

end Response

end Brokerage
