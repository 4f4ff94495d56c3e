import UdsRs.Uds.Error

namespace uds_rs.uds

open rust

/-- `Parsed` holds the response struct, `Raw` all received data without the
first byte (SID). -/
inductive DataFormat (T : Type) where
  | Parsed (response : T)
  | Raw (data : Packet)
  deriving DecidableEq, Repr

inductive ResetType where
  | HardReset
  | KeyOffOnReset
  | SoftReset
  | EnableRapidPowerShutDown
  | DisableRapidPowerShutDown
  deriving DecidableEq, Repr

namespace ResetType

def discriminant : ResetType → UInt8
  | HardReset => 1
  | KeyOffOnReset => 2
  | SoftReset => 3
  | EnableRapidPowerShutDown => 4
  | DisableRapidPowerShutDown => 5

instance : TryFromPrimitive ResetType where
  to_u8 := discriminant
  variants := [HardReset, KeyOffOnReset, SoftReset, EnableRapidPowerShutDown,
    DisableRapidPowerShutDown]
  mem_variants := by rintro ⟨⟩ <;> decide
  nodup := by decide

end ResetType

structure EcuResetResponse where
  reset_type : ResetType
  power_down_time : Option UInt8
  deriving DecidableEq, Repr

structure DataRecord where
  data_identifier : UInt16
  data : Packet
  deriving DecidableEq, Repr

structure ReadDataByIdentifierResponse where
  data_records : List DataRecord
  deriving DecidableEq, Repr

structure ReadMemoryByAddressResponse where
  data_record : Packet
  deriving DecidableEq, Repr

structure WriteDataByIdentifierResponse where
  data_identifier : UInt16
  deriving DecidableEq, Repr

structure DiagnosticSessionControlResponse where
  session : UInt8
  p2 : UInt16
  p2_star : UInt16
  deriving DecidableEq, Repr

inductive SubFunction where
  | ReportNumberOfDTCbyStatusMask
  | ReportDTCByStatusMask
  | ReportDTCSnapshotIdentification
  | ReportDTCSnapshotRecordByDTCNumber
  | ReportDTCStoredDataByRecordNumber
  | ReportDTCExtDataRecordByDTCNumber
  | ReportNumberOfDTCBySeverityMaskRecord
  | ReportDTCBySeverityMaskRecord
  | ReportSeverityInformationOfDTC
  | ReportSupportedDTC
  | ReportFirstTestFailedDTC
  | ReportFirstConfirmedDTC
  | ReportMostRecentTestFailedDTC
  | ReportMostRecentConfirmedDTC
  | ReportMirrorMemoryDTCByStatusMask
  | ReportMirrorMemoryDTCExtDataRecordByDTCNumber
  | ReportNumberOfMirrorMemoryDTCByStatusMask
  | ReportNumberOfEmissionsOBDDTCByStatusMask
  | ReportEmissionsOBDDTCByStatusMask
  | ReportDTCFaultDetectionCounter
  | ReportDTCWithPermanentStatus
  | ReportDTCExtDataRecordByRecordNumber
  | ReportUserDefMemoryDTCByStatusMask
  | ReportUserDefMemoryDTCSnapshotRecordByDTCNumber
  | ReportUserDefMemoryDTCExtDataRecordByDTCNumber
  | ReportWWHOBDDTCByMaskRecord
  | ReportWWHOBDDTCWithPermanentStatus
  deriving DecidableEq, Repr

namespace SubFunction

def discriminant : SubFunction → UInt8
  | ReportNumberOfDTCbyStatusMask => 0x01
  | ReportDTCByStatusMask => 0x02
  | ReportDTCSnapshotIdentification => 0x03
  | ReportDTCSnapshotRecordByDTCNumber => 0x04
  | ReportDTCStoredDataByRecordNumber => 0x05
  | ReportDTCExtDataRecordByDTCNumber => 0x06
  | ReportNumberOfDTCBySeverityMaskRecord => 0x07
  | ReportDTCBySeverityMaskRecord => 0x08
  | ReportSeverityInformationOfDTC => 0x09
  | ReportSupportedDTC => 0x0A
  | ReportFirstTestFailedDTC => 0x0B
  | ReportFirstConfirmedDTC => 0x0C
  | ReportMostRecentTestFailedDTC => 0x0D
  | ReportMostRecentConfirmedDTC => 0x0E
  | ReportMirrorMemoryDTCByStatusMask => 0x0F
  | ReportMirrorMemoryDTCExtDataRecordByDTCNumber => 0x10
  | ReportNumberOfMirrorMemoryDTCByStatusMask => 0x11
  | ReportNumberOfEmissionsOBDDTCByStatusMask => 0x12
  | ReportEmissionsOBDDTCByStatusMask => 0x13
  | ReportDTCFaultDetectionCounter => 0x14
  | ReportDTCWithPermanentStatus => 0x15
  | ReportDTCExtDataRecordByRecordNumber => 0x16
  | ReportUserDefMemoryDTCByStatusMask => 0x17
  | ReportUserDefMemoryDTCSnapshotRecordByDTCNumber => 0x18
  | ReportUserDefMemoryDTCExtDataRecordByDTCNumber => 0x19
  | ReportWWHOBDDTCByMaskRecord => 0x42
  | ReportWWHOBDDTCWithPermanentStatus => 0x55

instance : TryFromPrimitive SubFunction where
  to_u8 := discriminant
  variants := [ReportNumberOfDTCbyStatusMask, ReportDTCByStatusMask,
    ReportDTCSnapshotIdentification, ReportDTCSnapshotRecordByDTCNumber,
    ReportDTCStoredDataByRecordNumber, ReportDTCExtDataRecordByDTCNumber,
    ReportNumberOfDTCBySeverityMaskRecord, ReportDTCBySeverityMaskRecord,
    ReportSeverityInformationOfDTC, ReportSupportedDTC, ReportFirstTestFailedDTC,
    ReportFirstConfirmedDTC, ReportMostRecentTestFailedDTC, ReportMostRecentConfirmedDTC,
    ReportMirrorMemoryDTCByStatusMask, ReportMirrorMemoryDTCExtDataRecordByDTCNumber,
    ReportNumberOfMirrorMemoryDTCByStatusMask, ReportNumberOfEmissionsOBDDTCByStatusMask,
    ReportEmissionsOBDDTCByStatusMask, ReportDTCFaultDetectionCounter,
    ReportDTCWithPermanentStatus, ReportDTCExtDataRecordByRecordNumber,
    ReportUserDefMemoryDTCByStatusMask, ReportUserDefMemoryDTCSnapshotRecordByDTCNumber,
    ReportUserDefMemoryDTCExtDataRecordByDTCNumber, ReportWWHOBDDTCByMaskRecord,
    ReportWWHOBDDTCWithPermanentStatus]
  mem_variants := by rintro ⟨⟩ <;> decide
  nodup := by decide

end SubFunction

inductive DTCFormat where
  | SAE_J2012_DA_0
  | ISO_14229_1
  | SAE_J1939_73
  | ISO_11992_4
  | SAE_J2012_DA_4
  deriving DecidableEq, Repr

namespace DTCFormat

def discriminant : DTCFormat → UInt8
  | SAE_J2012_DA_0 => 0x00
  | ISO_14229_1 => 0x01
  | SAE_J1939_73 => 0x02
  | ISO_11992_4 => 0x03
  | SAE_J2012_DA_4 => 0x04

instance : TryFromPrimitive DTCFormat where
  to_u8 := discriminant
  variants := [SAE_J2012_DA_0, ISO_14229_1, SAE_J1939_73, ISO_11992_4, SAE_J2012_DA_4]
  mem_variants := by rintro ⟨⟩ <;> decide
  nodup := by decide

end DTCFormat

structure ReportNumberOfDTCByMaskResponse where
  dtc_status_availability_mask : UInt8
  dtc_format_identifier : DTCFormat
  dtc_count : UInt16
  deriving DecidableEq, Repr

structure DTCAndStatusRecord where
  dtc : UInt32
  status_of_dtc : UInt8
  deriving DecidableEq, Repr

structure ReportDTCsResponse where
  dtc_status_availability_mask : UInt8
  dtc_and_status_records : List DTCAndStatusRecord
  deriving DecidableEq, Repr

/-- The responses that report DTCs. Only the variants that some parser builds are
modelled. -/
inductive ReadDTCInformationResponse where
  | ReportNumberOfDTCbyStatusMask (response : ReportNumberOfDTCByMaskResponse)
  | ReportDTCByStatusMask (response : ReportDTCsResponse)
  | ReportNumberOfDTCBySeverityMaskRecord (response : ReportNumberOfDTCByMaskResponse)
  | ReportSupportedDTC (response : ReportDTCsResponse)
  | ReportFirstTestFailedDTC (response : ReportDTCsResponse)
  | ReportFirstConfirmedDTC (response : ReportDTCsResponse)
  | ReportMostRecentTestFailedDTC (response : ReportDTCsResponse)
  | ReportMostRecentConfirmedDTC (response : ReportDTCsResponse)
  | ReportMirrorMemoryDTCByStatusMask (response : ReportDTCsResponse)
  | ReportNumberOfMirrorMemoryDTCByStatusMask (response : ReportNumberOfDTCByMaskResponse)
  | ReportNumberOfEmissionsOBDDTCByStatusMask (response : ReportNumberOfDTCByMaskResponse)
  | ReportEmissionsOBDDTCByStatusMask (response : ReportDTCsResponse)
  | ReportDTCWithPermanentStatus (response : ReportDTCsResponse)
  deriving DecidableEq, Repr

inductive UdsResponse where
  | EcuReset (response : DataFormat EcuResetResponse)
  | ReadDataByIdentifier (response : DataFormat ReadDataByIdentifierResponse)
  | ReadMemoryByAddress (response : DataFormat ReadMemoryByAddressResponse)
  | ReadDTCInformation (response : DataFormat ReadDTCInformationResponse)
  | ClearDiagnosticInformation
  | WriteDataByIdentifier (response : DataFormat WriteDataByIdentifierResponse)
  | DiagnosticSessionControl (response : DataFormat DiagnosticSessionControlResponse)
  deriving DecidableEq, Repr

abbrev EcuResponseResult : Type := Outcome UdsError UdsResponse

end uds_rs.uds
