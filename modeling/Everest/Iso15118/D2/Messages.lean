import Everest.Iso15118.Exchange
import Everest.Iso15118.PhysicalValues

namespace Everest.Iso15118.D2

/-- A session id; zero stands for no session. -/
abbrev SessionId := ℕ

abbrev Der := List UInt8

/-- A request and its response have one type here; `none` is a frame that is no known message. -/
inductive MessageType where
  | none | sessionSetup | serviceDiscovery | serviceDetail | paymentServiceSelection
  | paymentDetails | authorization | chargeParameterDiscovery | powerDelivery | chargingStatus
  | cableCheck | preCharge | currentDemand | weldingDetection | sessionStop | meteringReceipt
  | certificateInstallation | certificateUpdate
  deriving DecidableEq, Repr

inductive ResponseCode where
  | ok | okNewSessionEstablished | okOldSessionJoined | okCertificateExpiresSoon
  | failed | failedSequenceError | failedServiceIdInvalid | failedUnknownSession
  | failedServiceSelectionInvalid | failedPaymentSelectionInvalid | failedCertificateExpired
  | failedSignatureError | failedNoCertificateAvailable | failedCertChainError
  | failedChallengeInvalid | failedContractCanceled | failedWrongChargeParameter
  | failedPowerDeliveryNotApplied | failedTariffSelectionInvalid | failedChargingProfileInvalid
  | failedMeteringSignatureNotValid | failedNoChargeServiceSelected
  | failedWrongEnergyTransferMode | failedContactorError | failedCertificateNotAllowedAtThisEvse
  | failedCertificateRevoked
  deriving DecidableEq, Repr

/-- The code is `FAILED` or one of the codes after it. -/
def ResponseCode.isFailed : ResponseCode → Bool
  | .ok | .okNewSessionEstablished | .okOldSessionJoined | .okCertificateExpiresSoon => false
  | _ => true

inductive EVSEProcessing where
  | finished | ongoing | ongoingWaitingForCustomerInteraction
  deriving DecidableEq, Repr

inductive PaymentOption where
  | contract | externalPayment
  deriving DecidableEq, Repr

inductive EnergyTransferMode where
  | acSinglePhaseCore | acThreePhaseCore | dcCore | dcExtended | dcComboCore | dcUnique
  deriving DecidableEq, Repr

inductive ChargeProgress where
  | start | stop | renegotiate
  deriving DecidableEq, Repr

inductive ChargingSession where
  | terminate | pause
  deriving DecidableEq, Repr

abbrev PhysicalValue := RationalNumber

def fromPhysicalValue (v : PhysicalValue) : ℚ := v.toRat

structure SelectedService where
  serviceId : ℕ
  deriving DecidableEq, Repr

structure DcEvChargeParameter where
  evMaximumCurrentLimit : PhysicalValue
  evMaximumVoltageLimit : PhysicalValue
  evMaximumPowerLimit : Option PhysicalValue
  deriving DecidableEq, Repr

structure AcEvChargeParameter where
  evMaxCurrent : PhysicalValue
  evMinCurrent : PhysicalValue
  evMaxVoltage : PhysicalValue
  eAmount : PhysicalValue
  deriving DecidableEq, Repr

structure ChargeParameterDiscoveryRequest where
  requestedEnergyTransferMode : EnergyTransferMode
  dcEvChargeParameter : Option DcEvChargeParameter
  acEvChargeParameter : Option AcEvChargeParameter
  deriving DecidableEq, Repr

structure PowerDeliveryRequest where
  chargeProgress : ChargeProgress
  saScheduleTupleId : ℕ
  /-- The `max_power` of each entry of the charging profile. -/
  chargingProfile : Option (List PhysicalValue)
  deriving DecidableEq, Repr

inductive Body where
  | none
  | sessionSetup
  | serviceDiscovery
  | serviceDetail (serviceId : ℕ)
  | paymentServiceSelection (option : PaymentOption) (services : List SelectedService)
  | paymentDetails (contractCertificate : Der) (subCertificates : List Der) (emaid : String)
  | authorization (genChallenge : Option ℕ)
  | chargeParameterDiscovery (req : ChargeParameterDiscoveryRequest)
  | powerDelivery (req : PowerDeliveryRequest)
  | chargingStatus
  | cableCheck
  | preCharge
  | currentDemand
  | weldingDetection
  | sessionStop (chargingSession : ChargingSession)
  | meteringReceipt (sessionId : SessionId)
  | certificateInstallation
  | certificateUpdate
  deriving DecidableEq, Repr

def Body.type : Body → MessageType
  | .none => .none
  | .sessionSetup => .sessionSetup
  | .serviceDiscovery => .serviceDiscovery
  | .serviceDetail _ => .serviceDetail
  | .paymentServiceSelection .. => .paymentServiceSelection
  | .paymentDetails .. => .paymentDetails
  | .authorization _ => .authorization
  | .chargeParameterDiscovery _ => .chargeParameterDiscovery
  | .powerDelivery _ => .powerDelivery
  | .chargingStatus => .chargingStatus
  | .cableCheck => .cableCheck
  | .preCharge => .preCharge
  | .currentDemand => .currentDemand
  | .weldingDetection => .weldingDetection
  | .sessionStop _ => .sessionStop
  | .meteringReceipt _ => .meteringReceipt
  | .certificateInstallation => .certificateInstallation
  | .certificateUpdate => .certificateUpdate

structure Request where
  sessionId : SessionId
  body : Body
  exiPayload : List UInt8
  deriving DecidableEq, Repr

structure Response where
  type : MessageType
  code : ResponseCode
  evseProcessing : EVSEProcessing := .finished
  /-- A `PowerDeliveryRes` or `MeteringReceiptRes` carries the status of a DC charger. -/
  dcEvseStatus : Bool := false
  deriving DecidableEq, Repr

abbrev Mark := Iso15118.Mark Request Response

end Everest.Iso15118.D2
