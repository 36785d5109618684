import SaasFoundation.Utils.Runtime
import SaasFoundation.Utils.Text

/-!
# `utils/transformers/lower-case.transformer.ts`
-/

namespace SaasFoundation

/-- `value.trim().toLowerCase()`. -/
def lowerCaseTransformer (runtime : Runtime) (value : String) : String :=
  runtime.toLowerCase (Text.trim value)

/-- What is known of lower-casing on the addresses that are admitted: once is
enough, white space is neither made nor moved to an end, and the database
server finds no letter left to lower. -/
structure LowerCases (runtime : Runtime) (Admitted : String → Prop) :
    Prop where
  idempotent : ∀ value, Admitted value →
    runtime.toLowerCase (lowerCaseTransformer runtime value) =
      lowerCaseTransformer runtime value
  trimmed : ∀ value, Admitted value →
    Text.trim (lowerCaseTransformer runtime value) =
      lowerCaseTransformer runtime value
  agrees : ∀ value, Admitted value →
    runtime.lower (lowerCaseTransformer runtime value) =
      runtime.toLowerCase (lowerCaseTransformer runtime value)

/-- Transforming twice is transforming once. -/
theorem LowerCases.fixed {runtime : Runtime} {Admitted : String → Prop}
    (lowers : LowerCases runtime Admitted) {value : String}
    (admitted : Admitted value) :
    lowerCaseTransformer runtime (lowerCaseTransformer runtime value) =
      lowerCaseTransformer runtime value := by
  have trimmed := lowers.trimmed value admitted
  calc
    runtime.toLowerCase (Text.trim (lowerCaseTransformer runtime value))
      = runtime.toLowerCase (lowerCaseTransformer runtime value) :=
        congrArg runtime.toLowerCase trimmed
    _ = lowerCaseTransformer runtime value := lowers.idempotent value admitted

end SaasFoundation
