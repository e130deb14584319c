import SealedSync.Proofs.RequestPaths

/-!
# What a URL is about

A request is about the index of an account, about one of its records, or about everything that it has
stored. The texts of two URLs are the same only if they are about the same, whatever the account, the
collection and the record are called, and slashes at the end of the base make no difference.
-/
namespace SealedSync.Http

/-- What a request is about. -/
inductive Subject where
  | index (account : String)
  | record (account collection id : String)
  | storage (account : String)
  deriving DecidableEq, Repr

namespace Subject

/-- What a call for an account is about. -/
def of (account : String) : RemoteCall → Subject
  | .index => .index account
  | .fetch collection id => .record account collection id
  | .store collection entry => .record account collection entry.id
  | .wipe => .storage account

/-- The names in a path, behind the version. -/
def names : Subject → List String
  | .index account => [account, "info", "collections"]
  | .record account collection id => [account, "storage", collection, id]
  | .storage account => [account, "storage"]

theorem names_of (account : String) (call : RemoteCall) :
    (of account call).names = account :: Backend.callSegments call := by
  cases call <;> rfl

/-- Paths to subjects of different kinds differ in length. -/
theorem names_inj {s t : Subject} : s.names = t.names ↔ s = t := by
  cases s <;> cases t <;> simp [names]

end Subject

theorem Url.pathText_encode_inj {names others : List String} :
    pathText (.segments (names.map Percent.encode)) =
      pathText (.segments (others.map Percent.encode)) ↔ names = others := by
  have free (names : List String) : ∀ s ∈ names.map Percent.encode, '/' ∉ s.toList := by
    intro s member
    obtain ⟨name, -, rfl⟩ := List.mem_map.mp member
    exact Percent.slash_notMem_encode name
  constructor
  · intro same
    exact (List.map_inj_right fun _ _ => Percent.encode_injective).mp
      (pathText_injective (free names) (free others) same)
  · rintro rfl
    rfl

namespace Backend

def slashes (count : Nat) : String := String.ofList (List.replicate count '/')

theorem trimBase_slashes (base : String) (count : Nat) :
    trimBase (base ++ slashes count) = trimBase base := by
  have cut : ∀ c ∈ List.replicate count '/', (c == '/') = true := by simp
  rw [trimBase, trimBase, slashes, String.toList_append, String.toList_ofList, List.reverse_append,
    List.reverse_replicate, List.dropWhile_append_of_pos cut]

/-- A base that is not empty is enough for a client. -/
theorem ofConfig_eq_ok (config : BackendConfig) (credentials : Credentials)
    (given : config.baseUrl ≠ "") : ∃ b, ofConfig config credentials = .ok b := by
  have filled : config.baseUrl.isEmpty = false := by simpa using given
  rw [ofConfig, filled]
  exact ⟨_, rfl⟩

/-- The text of a URL is the trimmed base and the names of its subject, encoded. -/
theorem url_eq {config : BackendConfig} {credentials : Credentials} {b : Backend}
    (made : ofConfig config credentials = .ok b) (call : RemoteCall) :
    (b.request call).url = trimBase config.baseUrl ++ Url.pathText (.segments
      (("1.1" :: (Subject.of credentials.account call).names).map Percent.encode)) := by
  have version : Percent.encode "1.1" = "1.1" := by decide
  rw [request_url made, Subject.names_of, List.map_cons (l := _ :: _), version]

/-- Clients of one base, however many slashes stand at its end, send two requests to one URL if and
only if the requests are about the same. -/
theorem url_eq_iff_subject_eq {base : String} (given : base ≠ "") (one other : Credentials)
    (count more limit patience : Nat) :
    ∃ b c, ofConfig ⟨base ++ slashes count, limit⟩ one = .ok b ∧
      ofConfig ⟨base ++ slashes more, patience⟩ other = .ok c ∧
      ∀ call another : RemoteCall, (b.request call).url = (c.request another).url ↔
        Subject.of one.account call = Subject.of other.account another := by
  have longer (n : Nat) : base ++ slashes n ≠ "" := by simp [given]
  obtain ⟨b, made⟩ := ofConfig_eq_ok ⟨_, limit⟩ one (longer count)
  obtain ⟨c, built⟩ := ofConfig_eq_ok ⟨_, patience⟩ other (longer more)
  refine ⟨b, c, made, built, fun call another => ?_⟩
  rw [url_eq made, url_eq built, trimBase_slashes, trimBase_slashes, String.append_right_inj,
    Url.pathText_encode_inj, List.cons.injEq, Subject.names_inj]
  exact and_iff_right rfl

/-- The slash in an account is no slash of the path. -/
theorem slashed_url_eq_iff :
    "http://[::1]:8000/p" ≠ "" ∧
      ∃ b c, ofConfig ⟨"http://[::1]:8000/p" ++ slashes 2, 30⟩ ⟨"a/storage", "", ""⟩ = .ok b ∧
        ofConfig ⟨"http://[::1]:8000/p" ++ slashes 0, 5⟩ ⟨"a", "", ""⟩ = .ok c ∧
        ∀ call another : RemoteCall, (b.request call).url = (c.request another).url ↔
          Subject.of "a/storage" call = Subject.of "a" another :=
  ⟨by decide, url_eq_iff_subject_eq (by decide) _ _ 2 0 30 5⟩

end Backend

end SealedSync.Http
