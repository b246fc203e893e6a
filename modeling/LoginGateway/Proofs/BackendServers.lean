import LoginGateway.Proofs.BackendPaths

/-! Which server hears of the requests of a route. The origin of a backend is written in
front of every one of them and read again, and leads to the server of the backend whatever is
asked for. -/

namespace LoginGateway

open Url Domain

namespace Route

variable {setting : String} {route : Route} {text : String}

theorem noFragment_of_targetUrl (read : readBackend setting = .ok route.backend)
    (absent : '#' ∉ text.toList) : '#' ∉ cleanEnd (route.pathPrefix ++ text.toList) := by
  intro inside
  have among := List.filter_sublist.subset ((cleanEnd_front _).subset inside)
  rcases List.mem_append.mp among with front | behind
  · exact (inner_pathPrefix read '#' front).2.1 rfl
  · exact absent behind

end Route

/-- Whatever is asked for, the address of a request leads to the server of its backend and
to no other, unless the name of that server is too long to be read again. Then there is
no request at all. -/
theorem backend_servers {setting : String} {route : Route} {text : String}
    (read : readBackend setting = .ok route.backend)
    (starts : text.toList.head? = some '/' ∨ text.toList.head? = some '?') :
    (HasReadableLabels (route.backend.hostText?.getD []) →
      ∃ url, Url.parse (route.targetUrl text).toList = .ok url ∧ url.SamePlace route.backend ∧
        url.username = [] ∧ url.password = [] ∧ ('#' ∉ text.toList → url.fragment = none)) ∧
    (¬ HasReadableLabels (route.backend.hostText?.getD []) →
      Url.parse (route.targetUrl text).toList = .error .domain) := by
  have follows := Route.follows_pathPrefix read (follows_of_head starts)
  obtain ⟨readable, unreadable⟩ := Route.parse_targetUrl_cases read follows
  refine ⟨fun known => ?_, unreadable⟩
  obtain ⟨host, _, parsed⟩ := readable known
  refine ⟨_, parsed, Route.samePlace_of_targetUrl read follows parsed, rfl, rfl, fun absent => ?_⟩
  have whole := fragment_of_cut (Route.noFragment_of_targetUrl read absent)
  simp only [behind, whole]
  rfl

namespace OneRoute

def addressBackend : Url where
  scheme := "https".toList
  username := "me".toList
  password := "secret".toList
  host := some (.ipv6 [0x2001, 0xDB8, 0, 0, 1, 0, 0, 1])
  port := none
  path := .segments ["app".toList, []]
  query := none
  fragment := none

/-- Neither a name and password in front of the host nor a host behind the path are of any
account. -/
theorem backend_servers_of_address :
    readBackend "HTTPS://me:secret@[2001:DB8::1:0:0:1]:443/app/" = .ok addressBackend ∧
      HasReadableLabels (addressBackend.hostText?.getD []) ∧
      Route.targetUrl ⟨"app.org.com", addressBackend⟩ "/@other.org:80//\\" =
        "https://[2001:db8::1:0:0:1]/app/@other.org:80//\\" ∧
      ∃ url, Url.parse "https://[2001:db8::1:0:0:1]/app/@other.org:80//\\".toList = .ok url ∧
        url.SamePlace addressBackend ∧ url.username = [] ∧ url.password = [] ∧
        ('#' ∉ "/@other.org:80//\\".toList → url.fragment = none) := by
  have read : readBackend "HTTPS://me:secret@[2001:DB8::1:0:0:1]:443/app/" = .ok addressBackend := by
    decide +kernel
  have readable : HasReadableLabels (addressBackend.hostText?.getD []) := by decide
  have target : Route.targetUrl ⟨"app.org.com", addressBackend⟩ "/@other.org:80//\\" =
      "https://[2001:db8::1:0:0:1]/app/@other.org:80//\\" := by decide +kernel
  have servers := (@backend_servers _ ⟨"app.org.com", addressBackend⟩ "/@other.org:80//\\" read
    (.inl (by decide))).1 readable
  rw [target] at servers
  exact ⟨read, readable, target, servers⟩

end OneRoute

end LoginGateway
