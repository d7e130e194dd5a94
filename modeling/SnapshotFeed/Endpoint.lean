import SnapshotFeed.Config
import SnapshotFeed.Url.Basic

/-! Where a subscription is asked for.

The base URL, without slashes at its end, is followed by the path of the service. The two are joined
as text and read as one URL. -/
namespace SnapshotFeed.Endpoint

/-- The path of the service. -/
def servicePath : String := "/flagd.sync.v1.FlagSyncService/SyncFlags"

theorem forall_head_service {p : Char → Prop} (h : p '/') : ∀ c ∈ servicePath.toList.head?, p c := by
  have hhead : servicePath.toList.head? = some '/' := by decide
  rw [hhead]
  rintro _ ⟨⟩
  exact h

theorem forall_mem_service {p : Char → Bool} (h : servicePath.toList.any p = false) :
    ∀ c ∈ servicePath.toList, p c = false :=
  fun c hc => Bool.eq_false_iff.mpr (List.any_eq_false.mp h c hc)

/-- The base without the slashes at its end. -/
def trimSlashes (base : List Char) : List Char := (base.reverse.dropWhile (· == '/')).reverse

theorem exists_trimSlashes (base : List Char) :
    ∃ k, base = trimSlashes base ++ List.replicate k '/' := by
  refine ⟨(base.reverse.takeWhile (· == '/')).length, ?_⟩
  have hslashes : base.reverse.takeWhile (· == '/') =
      List.replicate (base.reverse.takeWhile (· == '/')).length '/' :=
    List.eq_replicate_iff.mpr ⟨rfl, fun c hc => by
      simpa using List.all_eq_true.mp List.all_takeWhile c hc⟩
  have hsplit := List.takeWhile_append_dropWhile (p := (· == '/')) (l := base.reverse)
  rw [hslashes] at hsplit
  rw [trimSlashes, ← List.reverse_replicate, ← List.reverse_append, hsplit, List.reverse_reverse]

/-- The text that is read as the URL of the service. -/
def join (base : String) : String := .ofList (trimSlashes base.toList) ++ servicePath

def ofBase (base : String) : Except Error Url :=
  match Url.parse (join base) with
  | .ok u => .ok u
  | .error fault => .error (.invalidBaseUrl fault)

end SnapshotFeed.Endpoint
