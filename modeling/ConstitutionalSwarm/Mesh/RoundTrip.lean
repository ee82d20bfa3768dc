import ConstitutionalSwarm.Mesh.Evidence
import ConstitutionalSwarm.Mesh.Settlement

namespace Mesh

open Raising List
open PyValue (Dict)

theorem mapM_texts (texts : List String) (error : PyError)
    : ((texts.map PyValue.str).mapM fun
      | .str text => .ok text
      | _ => .error error : Py (List String)) = .ok texts := by
  rw [mapM_map]
  have h := Except.mapM_of_forall (ε := PyError) (f := fun text => .ok text) (g := id)
    (l := texts) fun _ _ => rfl
  rwa [map_id] at h

@[simp]
theorem EvidenceMode.ofValue_value (error : PyError) (mode : EvidenceMode)
    : EvidenceMode.ofValue error mode.value = .ok mode := by
  cases mode <;> rfl

@[simp]
theorem Decision.ofValue_value (decision : Decision)
    : Decision.ofValue decision.value = .ok decision := by
  cases decision <;> rfl

theorem bindingOfDict_toDict (item : EnvelopeFields)
    : bindingOfDict (voteEnvelopeToDict item) = .ok item.binding := by
  simp [bindingOfDict, voteEnvelopeToDict, EnvelopeFields.unsignedDict, Binding.entries, textField,
    Assoc.lookup_cons, ok_bind, pure_eq_ok]

theorem hasFields_voteEnvelopeToDict (h : item.protocolVersion = 2 ∨ item.protocolVersion = 3)
    : hasFields (voteEnvelopeToDict item)
      (envelopeFieldNames ((voteEnvelopeToDict item).lookup "protocol_version")) := by
  rcases h with h | h <;>
    simp [h, hasFields, envelopeFieldNames, voteEnvelopeToDict, EnvelopeFields.unsignedDict,
      Binding.entries, Assoc.lookup_cons, PyValue.eqInt]

variable [Platform]

theorem signedAssignmentFromDict_toDict (item : SignedAssignment)
    : signedAssignmentFromDict (signedAssignmentToDict item.toAssignmentFields) = .ok item := by
  have hpeers : peersField (signedAssignmentToDict item.toAssignmentFields) =
      .ok item.assignedPeers := by
    simp only [peersField, signedAssignmentToDict, AssignmentFields.unsignedDict, cons_append,
      nil_append, Assoc.lookup_cons, String.reduceEq, if_true, if_false]
    exact mapM_texts _ _
  have hflds : hasFields (signedAssignmentToDict item.toAssignmentFields)
      assignmentFieldNames := by
    simp [signedAssignmentToDict, AssignmentFields.unsignedDict, hasFields, assignmentFieldNames,
      Assoc.lookup_cons]
  rw [signedAssignmentFromDict, hflds, hpeers]
  simp only [signedAssignmentToDict, AssignmentFields.unsignedDict, cons_append,
    nil_append, textField, intField, floatField, Assoc.lookup_cons, String.reduceEq, if_true,
    if_false, ok_bind, Apcc.ensure_true]
  exact SignedAssignment.ofFields_eq_ok.mpr rfl

theorem voteEnvelopeFromDict_toDict (item : VoteEnvelope)
    : voteEnvelopeFromDict (voteEnvelopeToDict item.toEnvelopeFields) = .ok item := by
  have hflds := hasFields_voteEnvelopeToDict item.isValid.version
  have hdig := item.isValid.digest
  rcases item.isValid.version with hvers | hvers
  . -- the legacy envelopes have no digest to write
    rw [if_neg (by omega)] at hdig
    have hnames : "assignment_digest" ∉ envelopeFieldNames
        ((voteEnvelopeToDict item.toEnvelopeFields).lookup "protocol_version") := by
      simp [hvers, envelopeFieldNames, voteEnvelopeToDict, EnvelopeFields.unsignedDict,
        Assoc.lookup_cons, PyValue.eqInt]
    simp only [voteEnvelopeFromDict, hflds, hnames, bindingOfDict_toDict, if_false]
    simp only [voteEnvelopeToDict, EnvelopeFields.unsignedDict, Binding.entries, map_cons,
      map_nil, cons_append, nil_append, textField, intField, floatField,
      Assoc.lookup_cons, String.reduceEq, if_true, if_false, ok_bind, Apcc.ensure_true,
      pure_eq_ok, EvidenceMode.ofValue_value, Decision.ofValue_value, hvers,
      show ¬(2 : Int) = 3 by decide]
    apply VoteEnvelope.ofFields_eq_ok.mpr
    rw [← hvers, ← hdig]
  . have hnames : "assignment_digest" ∈ envelopeFieldNames
        ((voteEnvelopeToDict item.toEnvelopeFields).lookup "protocol_version") := by
      simp [hvers, envelopeFieldNames, voteEnvelopeToDict, EnvelopeFields.unsignedDict,
        Assoc.lookup_cons, PyValue.eqInt]
    simp only [voteEnvelopeFromDict, hflds, hnames, bindingOfDict_toDict, if_true]
    simp only [voteEnvelopeToDict, EnvelopeFields.unsignedDict, Binding.entries, map_cons,
      map_nil, cons_append, nil_append, textField, intField, floatField,
      Assoc.lookup_cons, String.reduceEq, if_true, if_false, ok_bind, Apcc.ensure_true,
      EvidenceMode.ofValue_value, Decision.ofValue_value, hvers]
    apply VoteEnvelope.ofFields_eq_ok.mpr
    rw [← hvers]

end Mesh
