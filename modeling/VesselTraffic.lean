import VesselTraffic.Main
import VesselTraffic.Proofs.RefusedLines
import VesselTraffic.Proofs.Fragmentation
import VesselTraffic.Proofs.Accounting
import VesselTraffic.Proofs.Families
import VesselTraffic.Proofs.Locality
import VesselTraffic.Proofs.Layouts
import VesselTraffic.Proofs.BitFlips
import VesselTraffic.Proofs.Trailer
import VesselTraffic.Proofs.Modes
import VesselTraffic.Proofs.Resynchronisation
import VesselTraffic.Proofs.Checked.Operations
import VesselTraffic.Proofs.Checked.Texts
import VesselTraffic.Proofs.Delivery
import VesselTraffic.Proofs.Checked.Views
import VesselTraffic.Proofs.Checked.Blocks
import VesselTraffic.Proofs.Checked.Frames
import VesselTraffic.Proofs.Checked.Applications
import VesselTraffic.Proofs.Checked.Reports
import VesselTraffic.Proofs.Checked.Lines
import VesselTraffic.Proofs.Checked.Streams
import VesselTraffic.Proofs.Stations
import VesselTraffic.Proofs.Encoding
import VesselTraffic.Proofs.Noise
import VesselTraffic.Proofs.Grammar
import VesselTraffic.Proofs.Rendering
import VesselTraffic.Proofs.Mismatches
import VesselTraffic.Proofs.SubViews
import VesselTraffic.Proofs.BitLists
import VesselTraffic.Proofs.Equality
import VesselTraffic.Proofs.GroupLists
import VesselTraffic.Proofs.Payloads
import VesselTraffic.Proofs.Armoring
import VesselTraffic.Proofs.Corruption
import VesselTraffic.Proofs.Decimals
import VesselTraffic.Proofs.Parameters
import VesselTraffic.Proofs.Beginnings
import VesselTraffic.Proofs.FixedLayouts
import VesselTraffic.Proofs.SixBitTexts
import VesselTraffic.Proofs.CutVoyages
import VesselTraffic.Proofs.LongNames
import VesselTraffic.Proofs.PositionRanges
import VesselTraffic.Proofs.ApplicationLists
import VesselTraffic.Proofs.CommunicationStates
import VesselTraffic.Proofs.Datagrams
import VesselTraffic.Proofs.SavedSettings
import VesselTraffic.Proofs.CleanLines
import VesselTraffic.Proofs.PaddedTexts
import VesselTraffic.Proofs.TwosComplement
import VesselTraffic.Proofs.LastAssignments
import VesselTraffic.Proofs.SettingValues
