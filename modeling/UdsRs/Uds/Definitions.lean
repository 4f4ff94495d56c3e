import UdsRs.Rust.NumEnum

namespace uds_rs.uds

open rust

/-- A packet, as the socket sends and receives it (`Vec<u8>`). Any byte string may
arrive, of any length and the empty one too. -/
abbrev Packet : Type := List UInt8

def SEND_RECEIVE_SID_OFFSET : UInt8 := 0x40

def NEGATIVE_RESPONSE_SID : UInt8 := 0x7F

def DIAGNOSTIC_SESSION_CONTROL_SID : UInt8 := 0x10

def ECU_RESET_SID : UInt8 := 0x11

def CLEAR_DIAGNOSTIC_INFORMATION_SID : UInt8 := 0x14

def READ_DTC_INFORMATION_SID : UInt8 := 0x19

def READ_DATA_BY_IDENTIFIER_SID : UInt8 := 0x22

def READ_MEMORY_BY_ADDRESS_SID : UInt8 := 0x23

def WRITE_DATA_BY_IDENTIFIER_SID : UInt8 := 0x2E

/-- So called NRC - when the ECU sends a negative response (SID 0x7F) it is
followed by the rejected SID and this byte. -/
inductive NegativeResponseCode where
  | PositiveResponse
  | GeneralReject
  | ServiceNotSupported
  | SubFunctionNotSupported
  | IncorrectMessageLengthOrInvalidFormat
  | ResponseTooLong
  | BusyRepeatRequest
  | ConditionsNotCorrect
  | RequestSequenceError
  | NoResponseFromSubnetComponent
  | FailurePreventsExecutionOfRequestedAction
  | RequestOutOfRange
  | SecurityAccessDenied
  | InvalidKey
  | ExceededNumberOfAttempts
  | RequiredTimeDelayNotExpired
  | UploadDownloadNotAccepted
  | TransferDataSuspended
  | GeneralProgrammingFailure
  | WrongBlockSequenceCounter
  | RequestCorrectlyReceivedResponsePending
  | SubfunctionNotSupportedInActiveSession
  | ServiceNotSupportedInActiveSession
  | RpmTooHigh
  | RpmTooLow
  | EngineIsRunning
  | EngineIsNotRunning
  | EngineRunTimeTooLow
  | TemperatureTooHigh
  | TemperatureTooLow
  | VehicleSpeedTooHigh
  | VehicleSpeedTooLow
  | ThrottlePedalTooHigh
  | ThrottlePedalTooLow
  | TransmissionRangeNotInNeutral
  | TransmissionRangeNotInGear
  | BrakeSwitchNotClosed
  | ShiftLeverNotInPark
  | TorqueConverterClutchLocked
  | VoltageTooHigh
  | VoltageTooLow
  deriving DecidableEq, Repr

namespace NegativeResponseCode

def discriminant : NegativeResponseCode → UInt8
  | PositiveResponse => 0x00
  | GeneralReject => 0x10
  | ServiceNotSupported => 0x11
  | SubFunctionNotSupported => 0x12
  | IncorrectMessageLengthOrInvalidFormat => 0x13
  | ResponseTooLong => 0x14
  | BusyRepeatRequest => 0x21
  | ConditionsNotCorrect => 0x22
  | RequestSequenceError => 0x24
  | NoResponseFromSubnetComponent => 0x25
  | FailurePreventsExecutionOfRequestedAction => 0x26
  | RequestOutOfRange => 0x31
  | SecurityAccessDenied => 0x33
  | InvalidKey => 0x35
  | ExceededNumberOfAttempts => 0x36
  | RequiredTimeDelayNotExpired => 0x37
  | UploadDownloadNotAccepted => 0x70
  | TransferDataSuspended => 0x71
  | GeneralProgrammingFailure => 0x72
  | WrongBlockSequenceCounter => 0x73
  | RequestCorrectlyReceivedResponsePending => 0x78
  | SubfunctionNotSupportedInActiveSession => 0x7E
  | ServiceNotSupportedInActiveSession => 0x7F
  | RpmTooHigh => 0x81
  | RpmTooLow => 0x82
  | EngineIsRunning => 0x83
  | EngineIsNotRunning => 0x84
  | EngineRunTimeTooLow => 0x85
  | TemperatureTooHigh => 0x86
  | TemperatureTooLow => 0x87
  | VehicleSpeedTooHigh => 0x88
  | VehicleSpeedTooLow => 0x89
  | ThrottlePedalTooHigh => 0x8A
  | ThrottlePedalTooLow => 0x8B
  | TransmissionRangeNotInNeutral => 0x8C
  | TransmissionRangeNotInGear => 0x8D
  | BrakeSwitchNotClosed => 0x8F
  | ShiftLeverNotInPark => 0x90
  | TorqueConverterClutchLocked => 0x91
  | VoltageTooHigh => 0x92
  | VoltageTooLow => 0x93

instance : TryFromPrimitive NegativeResponseCode where
  to_u8 := discriminant
  variants := [PositiveResponse, GeneralReject, ServiceNotSupported, SubFunctionNotSupported,
    IncorrectMessageLengthOrInvalidFormat, ResponseTooLong, BusyRepeatRequest,
    ConditionsNotCorrect, RequestSequenceError, NoResponseFromSubnetComponent,
    FailurePreventsExecutionOfRequestedAction, RequestOutOfRange, SecurityAccessDenied, InvalidKey,
    ExceededNumberOfAttempts, RequiredTimeDelayNotExpired, UploadDownloadNotAccepted,
    TransferDataSuspended, GeneralProgrammingFailure, WrongBlockSequenceCounter,
    RequestCorrectlyReceivedResponsePending, SubfunctionNotSupportedInActiveSession,
    ServiceNotSupportedInActiveSession, RpmTooHigh, RpmTooLow, EngineIsRunning,
    EngineIsNotRunning, EngineRunTimeTooLow, TemperatureTooHigh, TemperatureTooLow,
    VehicleSpeedTooHigh, VehicleSpeedTooLow, ThrottlePedalTooHigh, ThrottlePedalTooLow,
    TransmissionRangeNotInNeutral, TransmissionRangeNotInGear, BrakeSwitchNotClosed,
    ShiftLeverNotInPark, TorqueConverterClutchLocked, VoltageTooHigh, VoltageTooLow]
  mem_variants := by rintro ⟨⟩ <;> decide
  nodup := by decide

end NegativeResponseCode

end uds_rs.uds
