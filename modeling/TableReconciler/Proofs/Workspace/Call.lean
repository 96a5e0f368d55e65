import Mathlib
import TableReconciler.Workspace.Call

/-!
# What calls show of requests

A call tells everything about its request: two requests that are made by the same call with the same
arguments are the same request (`Request.eq_of_call`).  So whoever records the calls of a run has
recorded its requests.
-/

namespace TableReconciler

/-! ## Arguments -/

@[simp] theorem text_inj {a b : String} : Value.text a = Value.text b ↔ a = b := by
  simp [Value.text]

@[simp] theorem named_inj {a b : List (String × Value)} : named a = named b ↔ a = b := by
  unfold named
  rw [Value.mapping.injEq]
  exact List.map_inj_right fun {x y} h => by simpa [Prod.ext_iff] using h

@[simp] theorem optional_inj {a b : Option String} : optional a = optional b ↔ a = b := by
  cases a <;> cases b <;> simp [optional, Value.null, Value.text]

@[simp] theorem textPairs_inj {a b : List (String × String)} :
    textPairs a = textPairs b ↔ a = b := by
  unfold textPairs
  rw [named_inj]
  exact List.map_inj_right fun {x y} h => by simpa [Prod.ext_iff] using h

namespace Request

@[simp] theorem waitTimeout_inj {a b : Int} : waitTimeout a = waitTimeout b ↔ a = b := by
  unfold waitTimeout
  rw [String.append_left_inj]
  exact Int.repr_inj

/-! ## Calls -/

/-- Requests that are made by the same call with the same arguments are the same. -/
theorem eq_of_call {r r' : Request} (hname : r.name = r'.name)
    (harguments : r.arguments = r'.arguments) : r = r' := by
  cases r with
  | createCluster spec =>
      cases r' <;> simp [name] at hname
      next spec' =>
        cases spec
        cases spec'
        simp_all [arguments]
  | _ => cases r' <;> simp_all [name, arguments]

end Request

end TableReconciler
