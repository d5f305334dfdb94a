import Multiples.Proofs.Reading
import Multiples.Proofs.Routability
import Multiples.Proofs.Targets

/-!
# Whether the configured path can be asked for

The rules for settings want a path that requests can name, and look for the characters that a route gives a meaning
to.  A request has an opinion of its own: it ends its path at a question mark or a number sign, and has no blanks,
control characters and a few others in it, and no more than so many bytes.

* `Target.IsNameable` — what a request can name; `Target.path?_eq_self_iff` says that exactly such a path is the path
  of the target that it is;
* `Server.reached_iff_nameable` — of the accepted configurations that have a server, **exactly those with such a
  path answer requests for it**;
* `Server.accepted_unreachable` — there are others.
-/

namespace Multiples

namespace Target

variable {path : Text}

/-! ### What a request can name -/

/-- Whether a request can name a path: it is not too long, and each of its characters can stand in a path. -/
def IsNameable (path : Text) : Prop := path.byteSize ≤ 65534 ∧ ∀ c ∈ path, 0x20 < c.toNat ∧ c ∉ unnameable

theorem isNameable_iff : IsNameable path ↔ path.byteSize ≤ 65534 ∧ path.all isPathChar = true := by
  rw [IsNameable, List.all_eq_true]
  simp only [isPathChar_iff]

/-- **A path can be named exactly if it is the path of the target that it is.** -/
theorem path?_eq_self_iff (h : path.head? = some '/') : path? path = some path ↔ IsNameable path := by
  rw [path?_of_slash h, isNameable_iff]
  constructor
  · intro hpath
    rw [Option.ite_none_right_eq_some] at hpath
    exact ⟨hpath.1, (pathBefore?_eq_some_iff.1 hpath.2).1⟩
  · intro hnameable
    have hself := pathBefore?_append hnameable.2 .nothing
    rw [List.append_nil] at hself
    rw [if_pos hnameable.1, hself]

end Target

namespace Server

variable {c : Config} {s : Server}

/-! ### Servers of accepted configurations -/

theorem eq_configured (h : ofConfig? c = some s) : s = configured c := by
  rw [ofConfig?, Option.ite_none_right_eq_some] at h
  cases h.2
  rfl

/-- An accepted configuration leaves some time for a request. -/
theorem requestSecs_of_validate (h : c.validate = .ok c) : (configured c).requestSecs ≠ 0 := by
  have hne : c.timeouts.requestSecs ≠ 0 := Config.validate_eq_ok_iff.1 h .requestSecs
  show c.timeouts.requestSecs.toNat ≠ 0
  intro hzero
  exact hne (UInt64.toNat_inj.1 hzero)

/-! ### Asking for the configured path -/

/-- A request for the configured path as it is written is answered: one that asks gets the descriptor, and one that
sends a request within the size and the time, whatever parts it comes in, gets what the service answers to it. -/
structure Reaches (s : Server) (c : Config) : Prop where
  get : ∀ fresh headers body, headers.all Header.isValid = true →
    ∃ h, s.handle? fresh { method := "GET".toList, target := c.service.path, headers, body } = some h
      ∧ h.response.status = 200 ∧ h.response.body = Descriptor.document c.service.publicUrl
  post : ∀ (fresh : Text) (headers : List Header) (body : List BodyPart) (r : Request),
    headers.all Header.isValid = true → (∀ part ∈ body, part.goesOn = true) →
    Body.paused body < 1000 * c.timeouts.requestSecs.toNat → Body.sent body = Utf8.encode r.encode →
    r.encode.byteSize ≤ c.listener.maxBodySize.toNat →
    ∃ h, s.handle? fresh { method := "POST".toList, target := c.service.path, headers, body } = some h
      ∧ h.response.status = 200 ∧ h.response.body = (Service.answer r.encode).body

/-- No request for a path as it is written gets an answer: it is no valid request, or nothing is found there. -/
def Misses (s : Server) (path : Text) : Prop := ∀ fresh q, q.target = path →
  s.handle? fresh q = none ∨ ∃ h, s.handle? fresh q = some h ∧ h.response.status = 404

theorem reaches_of_path? (htime : (configured c).requestSecs ≠ 0)
    (hserved : (configured c).serves (configured c).path = true)
    (hpath : Target.path? c.service.path = some c.service.path) : (configured c).Reaches c where
  get := by
    intro fresh headers body hheaders
    refine ⟨(configured c).handle fresh (configured c).path _, handle?_eq_some rfl hheaders hpath, ?_⟩
    rw [response_get htime hserved fresh rfl]
    exact ⟨rfl, rfl⟩
  post := by
    intro fresh headers body r hheaders hgoes hpaused hsent hsize
    refine ⟨(configured c).handle fresh (configured c).path _, handle?_eq_some rfl hheaders hpath, ?_⟩
    have hlength : (Body.sent body).length ≤ (configured c).maxBodySize := by
      rw [hsent, Utf8.length_encode]
      exact hsize
    have hread : Body.read (configured c).maxBodySize (configured c).requestSecs body = .whole (Utf8.encode r.encode) := by
      rw [← hsent]
      exact Body.read_of_bounds hgoes hpaused hlength
    have hanswer : Endpoint.envelope (.whole (Utf8.encode r.encode)) = (Service.answer r.encode).body := by
      rw [Endpoint.envelope, Service.answerBytes_encode]
    rw [response_post htime hserved fresh rfl]
    refine ⟨rfl, ?_⟩
    show Endpoint.envelope (Body.read (configured c).maxBodySize (configured c).requestSecs body) = _
    rw [hread, hanswer]

theorem misses_of_path? (hliteral : PathPattern.isLiteral s.path = true) (htime : s.requestSecs ≠ 0)
    (hpath : Target.path? s.path ≠ some s.path) : s.Misses s.path := by
  intro fresh q htarget
  by_cases hvalid : Method.isToken q.method = true ∧ q.headers.all Header.isValid = true
  · cases hfound : Target.path? q.target with
    | none =>
      left
      rw [handle?, if_pos hvalid, hfound, Option.map_none]
    | some path =>
      have hunserved : ¬ s.serves path = true := by
        rw [serves_iff hliteral]
        rintro rfl
        rw [htarget] at hfound
        exact hpath hfound
      right
      refine ⟨_, handle?_eq_some hvalid.1 hvalid.2 hfound, ?_⟩
      rw [handle_elsewhere hunserved htime]
      rfl
  · left
    rw [handle?, if_neg hvalid]

theorem not_reaches_of_misses (h : (configured c).Misses c.service.path) : ¬ (configured c).Reaches c := by
  intro hreaches
  obtain ⟨answered, hanswered, hstatus, -⟩ := hreaches.get [] [] [] rfl
  rcases h [] { target := c.service.path } rfl with hnone | ⟨missing, hmissing, hmiss⟩
  · rw [hnone] at hanswered
    exact nomatch hanswered
  · rw [hmissing] at hanswered
    cases hanswered
    omega

/-- **Exactly the paths that a request can name are reached.**  Where an accepted configuration has a server, its path
is one that a request can name, and then every request for it as it is written is answered as it should be, or it
is none, and then no such request is. -/
theorem reached_iff_nameable (c : Config) (s : Server) (hvalid : c.validate = .ok c) (hs : ofConfig? c = some s) :
    (s.Reaches c ↔ Target.IsNameable c.service.path)
    ∧ (¬ Target.IsNameable c.service.path → s.Misses c.service.path) := by
  cases eq_configured hs
  have htime := requestSecs_of_validate hvalid
  have hliteral : PathPattern.isLiteral (configured c).path = true := isLiteral_of_validate hvalid
  have hpath := Target.path?_eq_self_iff (head?_path_of_validate hvalid)
  have hmisses : ¬ Target.IsNameable c.service.path → (configured c).Misses c.service.path := by
    intro hnot
    exact misses_of_path? hliteral htime fun hself => hnot (hpath.1 hself)
  refine ⟨?_, hmisses⟩
  constructor
  · intro hreaches
    exact Classical.byContradiction fun hnot => not_reaches_of_misses (hmisses hnot) hreaches
  · intro hnameable
    exact reaches_of_path? htime (serves_path hliteral) (hpath.2 hnameable)

/-- A path with an empty segment, a percent sign, a bar and a letter outside ASCII. -/
def oddPath : Config := { service := { path := "//a%zz|é:b".toList } }

/-- It is found as it is written. -/
theorem reached_oddPath : ∃ s, ofConfig? oddPath = some s ∧ s.Reaches oddPath := by
  have hvalid : oddPath.validate = .ok oddPath := if_pos (by decide)
  have hs : ofConfig? oddPath = some (configured oddPath) := ofConfig?_eq_some (by decide)
  have hnameable : Target.IsNameable oddPath.service.path := Target.isNameable_iff.2 ⟨by decide, by decide⟩
  exact ⟨_, hs, (reached_iff_nameable oddPath _ hvalid hs).1.2 hnameable⟩

/-- Not every accepted path is reached: a number sign ends it where it is asked for, and the rules do not know that. -/
theorem accepted_unreachable : ¬ ∀ (c : Config) (s : Server), c.validate = .ok c → ofConfig? c = some s →
    s.Reaches c := by
  intro hreached
  have hvalid : ({ service := { path := "/a#b".toList } } : Config).validate = .ok { service := { path := "/a#b".toList } } :=
    if_pos (by decide)
  have hs : ofConfig? { service := { path := "/a#b".toList } } = some (configured { service := { path := "/a#b".toList } }) :=
    ofConfig?_eq_some (by decide)
  have hmisses : (configured { service := { path := "/a#b".toList } }).Misses "/a#b".toList :=
    misses_of_path? (isLiteral_of_validate hvalid) (requestSecs_of_validate hvalid) (by decide)
  exact not_reaches_of_misses hmisses (hreached _ _ hvalid hs)

end Server

end Multiples
