/-
The shipped vocabulary.

Four registries: dissemination controls, further ones from outside the
intelligence community, classification levels, and the types of information
under the Atomic Energy Act.  Each is a table of rows in order of declaration,
and `Vocabulary.shipped` is the configuration that they write.
-/
import SecurityMarking.Vocabulary.Basic

namespace SecurityMarking

/-- A section of a vocabulary as configuration. -/
def sectionOfRows (description : Text) (rows : List Row) : Value :=
  .map [(.text "description", .text description), (.text "controls", .list (rows.map Row.toValue))]

namespace Vocabulary

/-- Dissemination controls. -/
def dissemControlsRows : List Row :=
  [⟨"RSEN", ["RSEN", "RISK SENSITIVE"], ["RS"]⟩,
    ⟨"IMCON", ["IMCON", "CONTROLLED IMAGERY"], ["IMC"]⟩,
    ⟨"NOFORN", ["NOFORN", "NOT RELEASABLE TO FOREIGN NATIONALS"], ["NF"]⟩,
    ⟨"PROPIN", ["PROPIN", "CAUTION-PROPRIETARY INFORMATION INVOLVED"], ["PR"]⟩,
    ⟨"RELIDO", ["RELIDO", "RELEASABLE BY INFORMATION DISCLOSURE OFFICIAL"], ["RELIDO"]⟩,
    ⟨"FISA", ["FISA", "FOREIGN INTELLIGENCE SURVEILLANCE ACT"], ["FISA"]⟩,
    ⟨"ORCON", ["ORCON", "ORIGINATOR CONTROLLED"], ["OC"]⟩,
    ⟨"DEA_SENSITIVE", ["DEA SENSITIVE"], ["DSEN"]⟩,
    ⟨"FOUO", ["FOUO", "FOR OFFICIAL USE ONLY"], ["FOUO"]⟩,
    ⟨"EYES_ONLY", ["EYES ONLY"], ["EYES"]⟩,
    ⟨"WAIVED", ["WAIVED"], ["WAIVED"]⟩]

/-- Dissemination controls from outside the intelligence community.  The trailing spaces of two
names are part of them. -/
def otherDissemControlsRows : List Row :=
  [⟨"ACCM", ["ACCM"], ["ACCM"]⟩,
    ⟨"EXDIS", ["EXDIS", "EXCLUSIVE DISTRIBUTION"], ["XD"]⟩,
    ⟨"LIMDIS", ["LIMDIS", "LIMITED DISTRIBUTION"], ["DS"]⟩,
    ⟨"NODIS", ["NODIS", "NO DISTRIBUTION"], ["ND"]⟩,
    ⟨"SBU", ["SBU", "SENSITIVE BUT UNCLASSIFIED"], ["SBU"]⟩,
    ⟨"SBU_NOFORN", ["SBU NOFORN", "SENSITIVE BUT UNCLASSIFIED NOFORN"], ["SBU-NF"]⟩,
    ⟨"LES", ["LES", "LAW ENFORCEMENT SENSITIVE "], ["LES"]⟩,
    ⟨"LES_NOFORN", ["LES NOFORN", "LAW ENFORCEMENT SENSITIVE NOFORN "], ["LES-NF"]⟩,
    ⟨"SSI", ["SSI", "SENSITIVE SECURITY INFORMATION"], ["SSI"]⟩]

/-- Classification levels, from the lowest. -/
def classificationLevelsRows : List Row :=
  [⟨"UNCLASSIFIED", ["UNCLASSIFIED"], ["U"]⟩,
    ⟨"RESTRICTED", ["RESTRICTED"], ["R"]⟩,
    ⟨"CONFIDENTIAL", ["CONFIDENTIAL"], ["C"]⟩,
    ⟨"SECRET", ["SECRET"], ["S"]⟩,
    ⟨"TOP_SECRET", ["TOP SECRET"], ["TS"]⟩]

/-- Types of information under the Atomic Energy Act. -/
def aeaTypesRows : List Row :=
  [⟨"RD", ["RESTRICTED DATA", "RD"], ["RD"]⟩,
    ⟨"FRD", ["FORMERLY RESTRICTED DATA", "FRD"], ["FRD"]⟩,
    ⟨"DOD_UCNI", ["DOD UNCLASSIFIED CONTROLLED NUCLEAR INFORMATION", "DOD UCNI"], ["DCNI"]⟩,
    ⟨"DOE_UCNI", ["DOE UNCLASSIFIED CONTROLLED NUCLEAR INFORMATION", "DOE UCNI"], ["UCNI"]⟩,
    ⟨"TFNI", ["TRANSCLASSIFIED FOREIGN NUCLEAR INFORMATION", "TFNI"], ["TFNI"]⟩]

/-- The name of the registry of dissemination controls. -/
def dissemControls : Text := "dissem_controls"

/-- The name of the registry of further dissemination controls. -/
def otherDissemControls : Text := "other_dissem_controls"

/-- The name of the registry of classification levels. -/
def classificationLevels : Text := "classification_levels"

/-- The name of the registry of AEA types. -/
def aeaTypes : Text := "aea_types"

/-- The vocabulary that is used unless another is chosen. -/
def shipped : Vocabulary :=
  [(.text dissemControls, sectionOfRows "Dissemination control markings" dissemControlsRows),
    (.text otherDissemControls,
      sectionOfRows "Non-intelligence community dissemination control markings"
        otherDissemControlsRows),
    (.text classificationLevels,
      sectionOfRows "Classification levels, lowest to highest" classificationLevelsRows),
    (.text aeaTypes, sectionOfRows "Atomic Energy Act information types" aeaTypesRows)]

end Vocabulary

end SecurityMarking
