/-
  File:      OpenerPolicy/Text/Chart/Cp949.lean
  Subject:   THE SYLLABLES THAT CODE PAGE 949 ADDS TO KS X 1001.

  Data only. A code is the two bytes of a syllable.

  * `cp949Additions` -- all of them.
-/
import OpenerPolicy.Text.Chart

namespace OpenerPolicy.Text

/-- The syllables of code page 949 that are not in KS X 1001. -/
def cp949Additions : Chart where
  runs :=
    [(0x8141, "갂갃갅갆갋갌갍갎갏갘갞갟갡갢갣갥갦갧갨갩갪갫갮갲갳갴"),
     (0x8161, "갵갶갷갺갻갽갾갿"),
     (0x8173, "걌걎걏걐걑걒걓걕"),
     (0x8181, "걖걗걙걚걛"),
     (0x8199, "걲걳걵걶걹걻걼걽걾걿겂겇겈겍겎겏겑겒겓겕겖겗겘겙겚겛겞겢겣겤겥겦겧겫겭겮겱겲겳"),
     (0x81C0, "겴겵겶겷겺겾겿곀곂곃곅곆곇곉곊곋곍곎곏곐곑곒곓곔곖곘곙곚곛곜곝곞곟곢곣곥곦곩곫"),
     (0x81E7, "곭곮곲곴곷곸곹곺곻곾곿괁괂괃괅괇괈괉괊괋괎괐괒괓"),
     (0x8241, "괔괕괖괗괙괚괛괝괞괟괡괢괣괤괥괦괧괨괪괫괮괯괰괱괲괳"),
     (0x8261, "괶괷괹괺괻괽괾괿굀굁굂굃굆굈굊굋굌굍굎굏굑굒굓굕굖굗"),
     (0x8281, "굙굚굛굜굝굞굟굠굢굤굥굦굧굨굩굪굫굮굯굱굲굷굸굹굺굾궀궃궄궅궆궇궊궋궍궎궏"),
     (0x82B1, "궞궟궠궡궢궣"),
     (0x82C9, "궸궹궺궻궼궽궾궿귂귃귅귆귇귉귊귋귌귍귎귏귒귔귕귖귗귘귙귚귛귝귞귟귡귢귣"),
     (0x8341, "귺귻귽귾긂긃긄긅긆긇긊긌긎긏긐긑긒긓긕긖긗긘긙긚긛긜"),
     (0x8374, "긲긳긵긶긹긻긼"),
     (0x8381, "긽긾긿깂깄깇깈깉깋깏깑깒깓깕깗깘깙깚깛깞깢깣깤깦깧깪깫깭깮깯깱깲깳깴깵깶깷깺깾"),
     (0x83A8, "깿꺀꺁꺂꺃꺆꺇꺈꺉꺊꺋"),
     (0x83E2, "꺿껁껂껃껅껆껇껈껉껊껋껎껒껓껔껕껖껗껚껛껝껞껟껠껡껢껣껤껥"),
     (0x8441, "껦껧껩껪껬껮껯껰껱껲껳껵껶껷껹껺껻껽껾껿꼀꼁꼂꼃꼄꼅"),
     (0x8461, "꼆꼉꼊꼋꼌꼎꼏"),
     (0x8481, "꼤꼥꼦꼧꼨꼩꼪꼫꼮꼯꼱꼳꼵꼶꼷꼸꼹꼺꼻꼾꽀꽄꽅꽆꽇꽊꽋꽌꽍꽎꽏"),
     (0x84AB, "꽞꽟꽠꽡꽢꽣"),
     (0x84C4, "꽺꽻꽼꽽꽾꽿꾁꾂꾃꾅꾆꾇꾉꾊꾋꾌꾍꾎꾏꾒꾓꾔꾖꾗꾘꾙꾚꾛"),
     (0x84FB, "꾺꾻꾽꾾"),
     (0x8541, "꾿꿁꿂꿃꿄꿅꿆꿊꿌꿏꿐꿑꿒꿓꿕꿖꿗꿘꿙꿚꿛꿝꿞꿟꿠꿡"),
     (0x8561, "꿢꿣꿤꿥꿦꿧꿪꿫꿬꿭꿮꿯꿲꿳꿵꿶꿷꿹꿺꿻꿼꿽꿾꿿뀂뀃"),
     (0x8581, "뀅뀆뀇뀈뀉뀊뀋뀍뀎뀏뀑뀒뀓뀕뀖뀗뀘뀙뀚뀛"),
     (0x85BA, "끆끇끉끋끍끏끐끑끒끖끘끚끛끜"),
     (0x85E6, "끾끿낁낂낃낅낆낇낈낉낊낋낎낐낒낓낔낕낖낗낛낝낞낣낤"),
     (0x8641, "낥낦낧낪낰낲낶낷낹낺낻낽낾낿냀냁냂냃냆냊냋냌냍냎냏냒"),
     (0x8661, "냓냕냖냗냙냚냛냜냝냞냟냡냢냣냤"),
     (0x8698, "넊넍넎넏넑넔넕넖넗넚넞넟넠넡넢넦넧넩넪넫넭넮넯넰넱넲넳넶넺넻넼넽넾넿녂녃녅녆녇"),
     (0x86BF, "녉녊녋녌녍녎녏녒녓녖녗녙녚녛녝녞녟"),
     (0x86E7, "녺녻녽녾녿놁놃놄놅놆놇놊놌놎놏놐놑놕놖놗놙놚놛놝"),
     (0x8774, "뇍뇎뇏뇑뇒뇓뇕"),
     (0x8781, "뇖뇗뇘뇙뇚뇛뇞뇠뇡뇢뇣뇤뇥뇦뇧뇪뇫뇭뇮뇯뇱뇲뇳뇴뇵뇶뇷뇸뇺뇼뇾뇿눀눁눂눃눆눇눉"),
     (0x87A8, "눊눍눎눏눐눑눒눓눖눘눚눛눜눝눞눟"),
     (0x87CB, "눵눶눷눸눹눺눻"),
     (0x87ED, "뉙뉚뉛뉝뉞뉟뉡뉢뉣뉤뉥뉦뉧뉪뉫뉬뉭뉮"),
     (0x8841, "뉯뉰뉱뉲뉳뉶뉷뉸뉹뉺뉻뉽뉾뉿늀늁늂늃늆늇늈늊늋늌늍늎"),
     (0x8861, "늏늒늓늕늖늗늛늜늝늞늟늢늤늧늨늩늫늭늮늯늱늲늳늵늶늷"),
     (0x8891, "닊닋닍닎닏닑닓닔닕닖닗닚닜닞닟닠닡닣닧닩닪닰닱닲닶닼닽닾댂댃댅댆댇댉댊댋댌댍댎"),
     (0x88B8, "댏댒댖댗댘댙댚댛"),
     (0x88F7, "덗덙덚덝덠덡덢덣"),
     (0x8941, "덦덨덪덬덭덯덲덳덵덶덷덹덺덻덼덽덾덿뎂뎆뎇뎈뎉뎊뎋뎍"),
     (0x8961, "뎎뎏뎑뎒뎓"),
     (0x8971, "뎢뎣뎤뎥뎦뎧뎩뎪뎫뎭"),
     (0x8997, "돆돇돉돊돍돏돑돒돓돖돘돚돜돞돟돡돢돣돥돦돧"),
     (0x89D2, "됑됒됓됔됕됖됗됙됚됛됝됞됟됡됢됣됤됥됦됧됪됬됭됮됯됰됱됲됳"),
     (0x8A4C, "둒둓둕둖둗둙둚둛둜둝둞둟둢둤둦"),
     (0x8A61, "둧둨둩둪둫"),
     (0x8A79, "뒁뒂"),
     (0x8A81, "뒃뒄뒅뒆뒇"),
     (0x8A9A, "뒞뒟뒠뒡뒢뒣뒥뒦뒧뒩뒪뒫뒭뒮뒯뒰뒱뒲뒳뒴뒶뒸뒺뒻뒼뒽뒾뒿듁듂듃듅듆듇듉듊듋듌듍"),
     (0x8AC1, "듎듏듑듒듓듔듖듗듘듙듚듛듞듟듡듢듥듧듨듩듪듫듮듰듲듳듴듵듶듷"),
     (0x8AFA, "딖딗딙딚딝"),
     (0x8B41, "딞딟딠딡딢딣딦딫딬딭딮딯딲딳딵딶딷딹딺딻딼딽딾딿땂땆"),
     (0x8B61, "땇땈땉땊땎땏땑땒땓땕땖땗땘땙땚땛땞땢땣땤땥땦땧땨땩땪"),
     (0x8BB6, "떢떣떥떦떧떩떬떭떮떯떲떶떷떸떹떺떾떿뗁뗂뗃뗅뗆뗇뗈뗉뗊뗋뗎뗒뗓뗔뗕뗖뗗"),
     (0x8C51, "똒똓똕똖똗똙똚똛똜똝"),
     (0x8C61, "똞똟똠똡똢똣똤똦똧똨똩똪똫똭똮똯똰똱똲똳똵똶똷똸똹똺"),
     (0x8CA9, "뙥뙦뙧"),
     (0x8CDF, "뚞뚟뚡뚢뚣뚥뚦뚧뚨뚩뚪뚭뚮뚯뚰"),
     (0x8D52, "뛕뛖뛗뛘뛙뛚뛛뛜뛝"),
     (0x8D73, "뛱뛲뛳뛵뛶뛷뛹뛺"),
     (0x8D81, "뛻뛼뛽뛾뛿뜂뜃뜄"),
     (0x8DAB, "뜪뜫뜭뜮뜱뜲뜳뜴뜵뜶뜷뜺뜼뜽뜾뜿띀띁띂띃띅띆띇띉띊띋띍띎띏띐띑띒띓"),
     (0x8DD6, "띡띢띣띥띦띧띩띪띫띬띭띮띯띲띴띶띷띸띹띺띻띾띿랁랂랃랅랆랇랈랉랊랋랎랓랔랕랚랛"),
     (0x8DFD, "랝랞"),
     (0x8E41, "랟랡랢랣랤랥랦랧랪랮랯랰랱랲랳랶랷랹랺랻랼랽랾랿럀럁"),
     (0x8E61, "럂럃럄럅럆럈"),
     (0x8E8F, "럮럯럱럲럳럵럶럷럸럹럺럻럾렂렃렄렅렆렊렋렍렎렏렑렒렓렔렕렖렗렚렜렞렟렠렡렢렣렦"),
     (0x8EB6, "렧렩렪렫렭렮렯렰렱렲렳렶렺렻렼렽렾렿롁롂롃"),
     (0x8ED7, "롒롔롕롖롗롘롙롚롛롞롟롡롢롣롥롦롧롨롩롪롫롮롰롲롳롴롵롶롷롹롺롻롽롾롿뢀뢁뢂뢃"),
     (0x8EFE, "뢄"),
     (0x8F41, "뢅뢆뢇뢈뢉뢊뢋뢌"),
     (0x8F61, "뢠뢡뢢뢣뢤뢥뢦뢧뢩뢪뢫뢬뢭뢮뢯뢱뢲뢳뢵뢶뢷뢹뢺뢻뢼뢽"),
     (0x8F81, "뢾뢿룂룄룆룇룈룉룊룋룍룎룏룑룒룓룕룖룗룘룙룚룛룜룞룠룢룣룤룥룦룧룪룫룭룮룯룱룲"),
     (0x8FA8, "룳룴룵룶룷룺룼룾룿뤀뤁뤂뤃"),
     (0x8FC8, "뤙뤚뤛뤜뤝뤞뤟"),
     (0x8FEA, "뤾뤿륁륂륃륅륆륇륈륉륊륋륍륎륐륒륓륔륕륖륗"),
     (0x9041, "륚륛륝륞륟륡륢륣륤륥륦륧륪륬륮륯륰륱륲륳륶륷륹륺륻륽"),
     (0x9061, "륾륿릀릁릂릃릆릈릋릌"),
     (0x908E, "릮릯릱릲릳릵릶릷릸릹릺릻릾맀맂맃맄맅맆맇맊맋맍맓맔맕맖맗맚맜맟맠맢맦맧맩맪맫맭"),
     (0x90B5, "맮맯맰맱맲맳맶맻맼맽맾맿먂먃먄먅먆먇"),
     (0x90F5, "먺먻먽먾먿멁멃멄멅멆"),
     (0x9141, "멇멊멌멏멐멑멒멖멗멙멚멛멝멞멟멠멡멢멣멦멪멫멬멭멮멯"),
     (0x9161, "멲멳멵멶멷"),
     (0x9170, "몆몈몉몊몋몍몎몏몐몑몒"),
     (0x9196, "몪몭몮몯몱몳몴몵몶몷몺몼몾몿뫀뫁뫂뫃뫅뫆뫇"),
     (0x91DC, "뫽뫾뫿묁묂묃묅묆묇묈묉묊묋묌묎묐묒묓묔묕묖묗묙묚묛묝묞묟묡묢묣묤묥묦묧"),
     (0x9241, "묨묪묬묭묮묯묰묱묲묳묷묹묺묿뭀뭁뭂뭃뭆뭈뭊뭋뭌뭎뭑뭒"),
     (0x9261, "뭓뭕뭖뭗뭙뭚뭛뭜뭝뭞뭟뭠뭢뭤뭥뭦뭧뭨뭩뭪뭫뭭뭮뭯뭰뭱"),
     (0x9297, "뮉뮊뮋뮍뮎뮏"),
     (0x92B0, "뮥뮦뮧뮩뮪뮫뮭뮮뮯뮰뮱뮲뮳뮵뮶뮸뮹뮺뮻뮼뮽뮾뮿믁믂믃믅믆믇믉믊믋믌믍믎믏믑믒"),
     (0x92FA, "믺믻믽믾밁"),
     (0x9341, "밃밄밅밆밇밊밎밐밒밓밙밚밠밡밢밣밦밨밪밫밬밮밯밲밳밵"),
     (0x9361, "밶밷밹밺밻밼밽밾밿뱂뱆뱇뱈뱊뱋뱎뱏뱑뱒뱓뱔뱕뱖뱗뱘뱙"),
     (0x9381, "뱚뱛뱜"),
     (0x93AA, "벆벇벉벊벍벏벐벑벒벓벖벘벛벜벝벞벟벢벣벥벦벩벪벫벬벭벮벯벲벶벷벸벹벺벻벾벿볁볂"),
     (0x93D1, "볃볅볆볇볈볉볊볋볌볎볒볓볔볖볗볙볚볛"),
     (0x93FA, "볷볹볺볻볽"),
     (0x9441, "볾볿봀봁봂봃봆봈봊봋봌봍봎봏봑봒봓봕봖봗봘봙봚봛봜봝"),
     (0x9461, "봞봟봠봡봢봣봥봦봧봨봩봪봫"),
     (0x9481, "봺봻봼봽봾봿뵁뵂뵃뵄뵅뵆뵇뵊뵋뵍뵎뵏뵑뵒뵓뵔뵕뵖뵗"),
     (0x94A4, "뵥뵦뵧"),
     (0x94BE, "붂붃붅붆붋붌붍붎붏붒붔붖붗붘붛붝붞붟붠붡붢붣"),
     (0x94DF, "붱붲붳붴붵붶붷"),
     (0x9541, "뷒뷓뷖뷗뷙뷚뷛"),
     (0x9554, "뷪뷫뷬뷭뷮뷯뷱"),
     (0x9561, "뷲뷳뷵뷶뷷뷹뷺뷻뷼뷽뷾뷿븁븂븄븆븇븈븉븊븋븎븏븑븒븓"),
     (0x9581, "븕븖븗븘븙븚븛븞"),
     (0x95AD, "빆빇빉빊빋빍빏빐빑빒빓빖빘빜빝빞빟빢빣빥빦빧빩빫빬빭빮빯빲빶빷빸빹빺빾빿뺁뺂뺃"),
     (0x95D4, "뺅뺆뺇뺈뺉뺊뺋뺎뺒뺓뺔뺕뺖뺗"),
     (0x9659, "뻒뻓"),
     (0x9661, "뻕뻖뻙뻚뻛뻜뻝뻞뻟뻡뻢뻦뻧뻨뻩뻪뻫뻭뻮뻯뻰뻱뻲뻳뻴뻵"),
     (0x968C, "뼂뼃뼄뼅뼆뼇"),
     (0x96A0, "뼚"),
     (0x96C3, "뽂뽃뽅뽆뽇뽉뽊뽋뽌뽍뽎뽏뽒뽓뽔"),
     (0x9752, "뾕뾖뾗뾘뾙뾚뾛뾜뾝"),
     (0x9773, "뾱뾲뾳뾴뾵뾶뾷뾸"),
     (0x978D, "뿆뿇뿈뿉뿊뿋뿎뿏뿑뿒뿓뿕뿖뿗뿘뿙뿚뿛뿝뿞뿠"),
     (0x97FC, "쀽쀾쀿"),
     (0x9852, "쁒쁓쁔쁕쁖쁗쁙쁚쁛"),
     (0x9861, "쁝쁞쁟쁡쁢쁣쁤쁥쁦쁧"),
     (0x9897, "삒삓삕삖삗삙삚삛삜삝삞삟삢삤삦삧삨삩삪삫삮삱삲삷삸삹삺삻삾샂샃샄샆샇샊샋샍샎샏"),
     (0x98BE, "샑샒샓샔샕샖샗샚샞샟샠샡샢샣샦샧샩샪샫샭샮샯샰샱샲샳샶샸샺샻샼샽샾샿섁섂섃섅섆"),
     (0x98E5, "섇섉섊섋섌섍섎섏섑섒섓섔섖섗섘섙섚섛섡섢섥섨섩섪섫섮"),
     (0x9941, "섲섳섴섵섷섺섻섽섾섿셁셂셃셄셅셆셇셊셎셏셐셑셒셓셖셗"),
     (0x9961, "셙셚셛셝셞셟셠셡셢셣셦셪셫셬셭셮셯셱셲셳셵셶셷셹셺셻"),
     (0x9981, "셼셽셾셿솀솁솂솃솄솆솇솈솉솊솋솏솑솒솓솕솗솘솙솚솛솞솠솢솣솤솦솧솪솫솭솮솯"),
     (0x99B2, "솾솿쇀쇁쇂쇃쇅쇆쇇쇉쇊쇋쇍쇎쇏쇐쇑쇒쇓쇕쇖쇙쇚쇛쇜쇝쇞쇟쇡쇢쇣쇥쇦쇧쇩쇪쇫쇬쇭"),
     (0x99D9, "쇮쇯쇲쇴쇵쇶쇷쇸쇹쇺쇻쇾쇿숁숂숃숅숆숇숈숉숊숋숎숐숒숓숔숕숖숗숚숛숝숞숡숢숣"),
     (0x9A41, "숤숥숦숧숪숬숮숰숳"),
     (0x9A61, "쉆쉇쉉쉊쉋쉌쉍쉎쉏쉒쉓쉕쉖쉗쉙쉚쉛쉜쉝쉞쉟쉡쉢쉣쉤쉦"),
     (0x9A81, "쉧쉨쉩쉪쉫쉮쉯쉱쉲쉳쉵쉶쉷쉸쉹쉺쉻쉾슀슂슃슄슅슆슇슊슋슌슍슎슏슑슒슓슔슕슖슗슙"),
     (0x9AA8, "슚슜슞슟슠슡슢슣슦슧슩슪슫슮슯슰슱슲슳슶슸"),
     (0x9ADF, "싞싟싡싢싥싦싧싨싩싪싮싰싲싳싴싵싷싺싽싾싿쌁쌂쌃쌄쌅쌆쌇쌊쌋쌎쌏"),
     (0x9B41, "쌐쌑쌒쌖쌗쌙쌚쌛쌝쌞쌟쌠쌡쌢쌣쌦쌧쌪쌫쌬쌭쌮쌯쌰쌱쌲"),
     (0x9B73, "썆썇썈썉썊썋썌썍"),
     (0x9B9B, "썪썫썭썮썯썱썳썴썵썶썷썺썻썾썿쎀쎁쎂쎃쎅쎆쎇쎉쎊쎋"),
     (0x9BFE, "쏚"),
     (0x9C41, "쏛쏝쏞쏡쏣쏤쏥쏦쏧쏪쏫쏬쏮쏯쏰쏱쏲쏳쏶쏷쏹쏺쏻쏼쏽쏾"),
     (0x9C61, "쏿쐀쐁쐂쐃쐄쐅쐆쐇쐉쐊쐋쐌쐍쐎쐏"),
     (0x9C81, "쐛쐜쐝쐞쐟쐠쐡쐢쐣쐥쐦쐧쐨쐩쐪쐫쐭쐮쐯쐱쐲쐳쐵쐶쐷쐸쐹쐺쐻"),
     (0x9CC3, "쑦쑧쑩쑪쑫쑭쑮쑯쑰쑱쑲쑳쑶쑷쑸쑺쑻쑼쑽쑾쑿"),
     (0x9CEB, "쒕쒖쒗쒘쒙쒚쒛"),
     (0x9D4F, "쒹쒺쒻쒽쒾쒿쓀쓁쓂쓃쓄쓅"),
     (0x9D81, "쓠쓡쓢쓣쓤쓥쓦쓧쓨쓪쓫쓬쓭쓮쓯쓲쓳쓵쓶쓷쓹쓻쓼쓽쓾"),
     (0x9DA4, "씍씎씏씑씒씓씕씖씗씘씙씚씛"),
     (0x9DBC, "씪씫씭씮씯씱씲씳씴씵씶씷씺씼씾씿앀앁앂앃앆앇앋앏앐앑앒앖앚앛앜앟앢앣앥앦앧앩앪"),
     (0x9DE3, "앫앬앭앮앯앲앶앷앸앹앺앻앾앿얁얂얃얅얆얈얉얊얋얎얐얒얓얔"),
     (0x9E41, "얖얙얚얛얝얞얟얡얢얣얤얥얦얧얨"),
     (0x9E5A, "얶"),
     (0x9E61, "얷얺얿엀엁엂엃엋엍엏엒엓엕엖엗엙엚엛엜엝엞엟엢엤엦엧"),
     (0x9E81, "엨엩엪엫엯엱엲엳엵엸엹엺엻옂옃옄옉옊옋옍옎옏옑옒옓옔옕옖옗옚옝옞옟옠옡옢옣옦옧"),
     (0x9EA8, "옩옪옫옯옱옲옶옸옺옼옽옾옿왂왃왅왆왇왉왊왋왌왍왎왏왒왖왗왘왙왚왛왞왟"),
     (0x9ED5, "왭왮왰왲왳왴왵왶왷왺왻왽왾왿욁욂욃욄욅욆욇욊욌욎욏욐욑욒욓욖욗욙욚욛욝욞욟욠욡"),
     (0x9EFC, "욢욣욦"),
     (0x9F41, "욨욪욫욬욭욮욯욲욳욵욶욷욻욼욽욾욿웂웄웆웇웈웉웊웋웎"),
     (0x9F61, "웏웑웒웓웕웖웗웘웙웚웛웞웟웢웣웤웥웦웧웪웫웭웮웯웱웲"),
     (0x9F81, "웳웴웵웶웷웺웻웼웾웿윀윁윂윃윆윇윉윊윋윍윎윏윐윑윒윓윖윘윚윛윜윝윞윟윢윣윥윦윧"),
     (0x9FA8, "윩윪윫윬윭윮윯윲윴윶윸윹윺윻윾윿읁읂읃읅읆읇읈읉읋읎읐읙읚읛읝읞읟읡읢읣읤읥읦"),
     (0x9FCF, "읧읩읪읬읭읮읯읰읱읲읳읶읷읹읺읻읿잀잁잂잆잋잌잍잏잒잓잕잙잛잜잝잞잟잢잧잨잩잪"),
     (0x9FF6, "잫잮잯잱잲잳잵잶잷"),
     (0xA041, "잸잹잺잻잾쟂쟃쟄쟅쟆쟇쟊쟋쟍쟏쟑쟒쟓쟔쟕쟖쟗쟙쟚쟛쟜"),
     (0xA061, "쟞쟟쟠쟡쟢쟣쟥쟦쟧쟩쟪쟫"),
     (0xA081, "쟻쟼쟽쟾쟿젂젃젅젆젇젉젋젌젍젎젏젒젔젗젘젙젚젛젞젟젡젢젣젥젦젧젨젩젪젫젮젰젲젳"),
     (0xA0A8, "젴젵젶젷젹젺젻젽젾젿졁졂졃졄졅졆졇졊졋졎졏졐졑졒졓"),
     (0xA0DC, "졲졳졵졶졷졹졻졼졽졾졿좂좄좈좉좊좎좏좐좑좒좓좕좖좗좘좙좚좛좜좞좠좢좣좤"),
     (0xA141, "좥좦좧"),
     (0xA157, "좾좿죀죁"),
     (0xA161, "죂죃죅죆죇죉죊죋죍죎죏죐죑죒죓죖죘죚죛죜죝죞죟죢죣죥"),
     (0xA190, "죶죷죸죹죺죻죾죿줁줂줃줇줈줉줊줋줎"),
     (0xA241, "줐줒줓줔줕줖줗"),
     (0xA261, "줭줮줯줰줱줲줳"),
     (0xA281, "쥈쥉쥊쥋쥌쥍쥎쥏쥒쥓쥕쥖쥗쥙쥚쥛쥜쥝쥞쥟쥢쥤쥥쥦쥧쥨쥩쥪쥫쥭쥮쥯"),
     (0xA341, "쥱쥲쥳쥵쥶쥷쥸쥹쥺쥻"),
     (0xA356, "즊즋즍즎즏"),
     (0xA361, "즑즒즓즔즕즖즗즚즜"),
     (0xA392, "짂짃짅짆짉짋짌짍짎짏짒짔짗짘짛"),
     (0xA441, "짞짟짡짣짥짦짨짩짪짫짮짲짳짴짵짶짷짺짻짽짾짿쨁쨂쨃쨄"),
     (0xA461, "쨅쨆쨇쨊쨎쨏쨐쨑쨒쨓쨕쨖쨗"),
     (0xA481, "쨦쨧쨨"),
     (0xA541, "쩇쩈쩉쩊쩋쩎쩏쩑쩒쩓쩕쩖쩗쩘쩙쩚쩛쩞쩢쩣쩤쩥쩦쩧쩩쩪"),
     (0xA573, "쩾쩿쪀쪁쪂쪃쪅쪆"),
     (0xA655, "쪾쪿쫁쫂쫃쫅"),
     (0xA661, "쫆쫇쫈쫉쫊쫋쫎쫐쫒쫔쫕쫖쫗쫚쫛쫜쫝쫞쫟쫡쫢쫣쫤쫥쫦쫧"),
     (0xA681, "쫨쫩쫪쫫쫭쫮쫯쫰쫱쫲쫳"),
     (0xA69F, "쬉쬊"),
     (0xA741, "쬋쬌쬍쬎쬏쬑쬒쬓쬕쬖쬗쬙쬚쬛쬜쬝쬞쬟쬢쬣쬤쬥쬦쬧쬨쬩"),
     (0xA778, "쭂쭃쭄"),
     (0xA781, "쭅쭆쭇쭊쭋쭍쭎쭏쭑쭒쭓쭔쭕쭖쭗쭚쭛쭜쭞쭟쭠쭡쭢쭣쭥쭦쭧쭨쭩쭪쭫쭬"),
     (0xA874, "쮝쮞쮟쮠쮡쮢쮣"),
     (0xA961, "쯠쯡쯢쯣쯥쯦쯨"),
     (0xA990, "찎찏찑찒찓찕찖찗찘찙찚찛찞찟찠찣찤"),
     (0xAA41, "찥찦찪찫찭찯찱찲찳찴찵찶찷찺찿챀챁챂챃챆챇챉챊챋챍챎"),
     (0xAA61, "챏챐챑챒챓챖챚챛챜챝챞챟챡챢챣챥챧챩챪챫챬챭챮챯챱챲"),
     (0xAA81, "챳챴"),
     (0xAB41, "첔첕첖첗첚첛첝첞첟첡첢첣첤첥첦첧첪첮첯첰첱첲첳첶첷첹"),
     (0xAB61, "첺첻첽첾첿쳀쳁쳂쳃쳆쳈쳊쳋쳌쳍쳎쳏쳑쳒쳓쳕쳖쳗쳘쳙쳚"),
     (0xAB81, "쳛쳜쳝쳞쳟쳠쳡쳢쳣쳥쳦쳧쳨쳩쳪쳫쳭쳮쳯"),
     (0xAC41, "쳾쳿촀촂촃촄촅촆촇촊촋촍촎촏촑촒촓촔촕촖촗촚촜촞촟촠"),
     (0xAC61, "촡촢촣촥촦촧촩촪촫"),
     (0xAC76, "촺촻촼촽촾"),
     (0xAC9E, "쵝쵞쵟"),
     (0xAD41, "쵡쵢쵣쵥쵦쵧쵨쵩쵪쵫쵮쵰쵲쵳쵴쵵쵶쵷쵹쵺쵻쵼쵽쵾쵿춀"),
     (0xAD61, "춁춂춃춄춅춆춇"),
     (0xAD73, "춖춗춙춚춛춝춞춟"),
     (0xAD81, "춠춡춢춣춦춨춪춫춬춭춮춯"),
     (0xADA0, "췅"),
     (0xAE41, "췆췇췈췉췊췋췍췎췏"),
     (0xAE61, "췢췣췤췥췦췧췩췪췫췭췮췯췱췲췳췴췵췶췷췺췼췾췿츀츁츂"),
     (0xAE81, "츃츅츆츇츉츊츋츍츎츏츐츑츒츓츕츖츗츘츚츛츜츝츞츟츢츣츥츦츧츩츪츫"),
     (0xAF41, "츬츭츮츯츲츴"),
     (0xAF6F, "칚칛칝칞칢칣칤칥칦칧칪칬"),
     (0xAF81, "칮칯칰칱칲칳칶칷칹칺칻칽칾칿캀캁캂캃캆캈캊캋캌캍캎캏캒캓캕캖캗캙"),
     (0xB041, "캚캛캜캝캞캟캢캦캧캨캩캪캫"),
     (0xB061, "캻캼캽캾캿컀"),
     (0xB08F, "컦컧컩컪컭컮컯컰컱컲컳컶컺컻컼컽컾컿"),
     (0xB141, "켂켃켅켆켇켉켊켋켌켍켎켏켒켔켖켗켘켙켚켛켝켞켟켡켢켣"),
     (0xB161, "켥켦켧켨켩켪켫켮켲켳켴켵켶켷"),
     (0xB190, "콖콗콙콚콛콝콞콟콠콡콢콣콦콨콪콫콬"),
     (0xB241, "콭콮콯콲콳콵콶콷콹콺콻콼콽콾콿쾁쾂쾃쾄쾆쾇쾈쾉쾊쾋쾍"),
     (0xB274, "쾢쾣쾤쾥쾦쾧쾩"),
     (0xB281, "쾪쾫쾬쾭쾮쾯"),
     (0xB29A, "쿅쿆쿇쿈쿉쿊쿋"),
     (0xB355, "쿢쿣쿥쿦쿧쿩"),
     (0xB361, "쿪쿫쿬쿭쿮쿯쿲쿴쿶쿷쿸쿹쿺쿻쿽쿾쿿퀁퀂퀃퀅퀆퀇퀈퀉퀊"),
     (0xB381, "퀋퀌퀍퀎퀏퀐퀒퀓퀔퀕퀖퀗"),
     (0xB441, "퀮퀯퀰퀱퀲퀳퀶퀷퀹퀺퀻퀽퀾퀿큀큁큂큃큆큈큊큋큌큍큎큏"),
     (0xB461, "큑큒큓큕큖큗큙큚큛큜큝큞큟"),
     (0xB479, "큮큯"),
     (0xB481, "큱큲큳큵큶큷큸큹큺큻큾큿킀"),
     (0xB550, "킦킧킩킪킫킭킮킯킰킱킲"),
     (0xB561, "킳킶킸킺킻킼킽킾킿탂탃탅탆탇탊탋탌탍탎탏탒탖탗탘탙탚"),
     (0xB581, "탛탞탟탡탢탣탥탦탧탨탩탪탫탮탲탳탴탵탶탷"),
     (0xB641, "턅턆턇턈턉턊턋턌"),
     (0xB671, "턲턳턵턶턷턹턻턼턽턾"),
     (0xB681, "턿텂텆텇텈텉텊텋텎텏텑텒텓텕텖텗텘텙텚텛텞텠텢텣텤텥텦텧텩텪텫텭"),
     (0xB74F, "텽텾텿톀톁톂톃톅톆톇톉톊"),
     (0xB776, "톢톣톥톦톧"),
     (0xB781, "톩톪톫톬톭톮톯톲톴톶톷톸톹톻톽톾톿"),
     (0xB841, "퇐퇑퇒퇓퇔퇕퇖퇗"),
     (0xB861, "퇫퇬퇭퇮퇯퇰퇱퇲퇳퇵퇶퇷"),
     (0xB881, "툈툊툋툌툍툎툏"),
     (0xB941, "툪툫툮툯툱툲툳툵툶툷툸툹툺툻툾퉀퉂퉃퉄퉅퉆퉇퉉퉊퉋퉌"),
     (0xB970, "퉝퉞퉟퉠퉡퉢퉣퉥퉦퉧퉨"),
     (0xB998, "튂튃튅튆튇튉튊튋튌"),
     (0xBA41, "튍튎튏튒튓튔튖튗튘튙튚튛튝튞튟튡튢튣튥튦튧튨튩튪튫튭"),
     (0xBA61, "튮튯튰튲튳튴튵튶튷튺튻튽튾틁틃틄틅틆틇틊틌틍틎틏틐틑"),
     (0xBA81, "틒틓틕틖틗틙틚틛틝틞틟틠틡틢틣"),
     (0xBA9A, "틲틳틵틶틷틹틺"),
     (0xBB41, "틻틼틽틾틿팂팄팆팇팈팉팊팋팏팑팒팓팕팗팘팙팚팛팞팢팣"),
     (0xBB61, "팤팦팧팪팫팭팮팯팱팲팳팴팵팶팷팺팾팿퍀퍁퍂퍃퍆퍇퍈퍉"),
     (0xBC53, "퍾퍿펁펂펃펅펆펇"),
     (0xBC61, "펈펉펊펋펎펒펓펔펕펖펗펚펛펝펞펟펡펢펣펤펥펦펧펪펬펮"),
     (0xBC81, "펯펰펱펲펳펵펶펷펹펺펻펽펾펿폀폁폂폃폆폇폊폋폌폍폎폏폑폒폓폔폕폖"),
     (0xBD41, "폗폙폚폛폜폝폞폟폠폢폤폥폦폧폨폩폪폫폮폯폱폲폳폵폶폷"),
     (0xBD61, "폸폹폺폻폾퐀퐂퐃퐄퐅퐆퐇"),
     (0xBD81, "퐗퐘퐙퐚퐛퐜"),
     (0xBE41, "퐸퐹퐺퐻퐼퐽퐾퐿푁푂푃"),
     (0xBE61, "푔푕푖푗푘푙푚푛푝푞푟푡푢푣푥푦푧푨푩푪푫푬푮푰푱푲"),
     (0xBE81, "푳푴푵푶푷푺푻푽푾풁풃풄풅풆풇풊풌풎풏풐풑풒풓풕풖풗풘풙풚풛풜풝"),
     (0xBF74, "퓍퓎퓏퓑퓒퓓퓕"),
     (0xBF81, "퓖퓗퓘퓙퓚퓛퓝퓞퓠퓡퓢퓣퓤퓥퓦퓧퓩퓪퓫퓭퓮퓯퓱퓲퓳퓴퓵퓶퓷퓹퓺퓼"),
     (0xC041, "퓾퓿픀픁픂픃픅픆픇픉픊픋픍픎픏픐픑픒픓픖픘픙픚픛픜픝"),
     (0xC081, "픸픹픺픻픾픿핁핂핃핅핆핇핈핉핊핋핎핐핒핓핔핕핖핗핚핛핝핞핟핡핢핣"),
     (0xC141, "핤핦핧핪핬핮핯핰핱핲핳핶핷핹핺핻핽핾핿햀햁햂햃햆햊햋"),
     (0xC161, "햌햍햎햏"),
     (0xC179, "햦햧"),
     (0xC241, "헊헋헍헎헏헑헓헔헕헖헗헚헜헞헟헠헡헢헣헦헧헩헪헫헭헮"),
     (0xC261, "헯헰헱헲헳헶헸헺헻헼헽헾헿혂혃혅혆혇혉혊혋혌혍혎혏혒"),
     (0xC281, "혖혗혘혙혚혛혝혞혟혡혢혣혥혦혧혨혩혪혫혬"),
     (0xC29F, "혺혻"),
     (0xC341, "혽혾혿홁홂홃홄홆홇홊홌홎홏홐홒홓홖홗홙홚홛홝홞홟홠홡"),
     (0xC361, "홢홣홤홥홦홨홪홫홬홭홮홯홲홳"),
     (0xC381, "횁횂횄횆횇횈횉횊횋횎횏횑횒횓횕횖횗횘횙횚횛횜횞횠횢횣횤횥횦횧횩횪"),
     (0xC441, "횫횭횮횯횱횲횳횴횵횶횷횸횺횼횽횾횿훀훁훂훃훆훇훉훊훋"),
     (0xC461, "훍훎훏훐훒훓훕훖훘훚훛훜훝훞훟훡훢훣훥훦훧훩훪훫훬훭"),
     (0xC481, "훮훯훱훲훳훴훶훷훸훹훺훻훾훿휁휂휃"),
     (0xC49E, "휒휓휔"),
     (0xC541, "휕휖휗휚휛휝휞휟휡휢휣휤휥휦휧휪휬휮휯휰휱휲휳휶휷휹"),
     (0xC561, "휺휻휽휾휿흀흁흂흃흅흆흈흊흋흌흍흎흏흒흓흕흚흛흜흝흞"),
     (0xC581, "흟흢흤흦흧흨흪흫흭흮흯흱흲흳흵흶흷흸흹흺흻흾흿힀힂힃힄힅힆힇힊힋"),
     (0xC641, "힍힎힏힑힒힓힔힕힖힗힚힜힞힟힠힡힢힣")]
  ranges :=
    [(0x8169, 0x8172, 0xAC41), (0x8186, 0x8198, 0xAC5D), (0x82A6, 0x82B0, 0xAD91),
     (0x82B7, 0x82C8, 0xADA5), (0x82EC, 0x82FE, 0xADE5), (0x8361, 0x8373, 0xAE1D),
     (0x83B3, 0x83E1, 0xAE8D), (0x8468, 0x847A, 0xAF11), (0x84A0, 0x84AA, 0xAF51),
     (0x84B1, 0x84C3, 0xAF66), (0x84E0, 0x84FA, 0xAF9D), (0x8595, 0x859E, 0xB01E),
     (0x859F, 0x85B9, 0xB029), (0x85C8, 0x85E5, 0xB05E), (0x8670, 0x867A, 0xB0E6),
     (0x8681, 0x8697, 0xB0F1), (0x86D0, 0x86E6, 0xB161), (0x8741, 0x874A, 0xB19E),
     (0x874B, 0x875A, 0xB1A9), (0x8761, 0x8773, 0xB1B9), (0x87B8, 0x87CA, 0xB221),
     (0x87D2, 0x87EC, 0xB23D), (0x8881, 0x8890, 0xB2B8), (0x88C0, 0x88F6, 0xB31D),
     (0x8966, 0x8970, 0xB395), (0x8981, 0x8996, 0xB3AE), (0x89AC, 0x89BE, 0xB3E9),
     (0x89BF, 0x89D1, 0xB3FD), (0x89EF, 0x89FE, 0xB435), (0x8A41, 0x8A4B, 0xB445),
     (0x8A66, 0x8A78, 0xB46D), (0x8A86, 0x8A99, 0xB489), (0x8ADF, 0x8AF9, 0xB4F9),
     (0x8B81, 0x8BB5, 0xB56B), (0x8BD9, 0x8BEB, 0xB5D9), (0x8BEC, 0x8BFE, 0xB5ED),
     (0x8C41, 0x8C50, 0xB600), (0x8C81, 0x8C8D, 0xB63B), (0x8C8E, 0x8CA8, 0xB649),
     (0x8CAC, 0x8CDE, 0xB669), (0x8CEE, 0x8CFE, 0xB6B2), (0x8D41, 0x8D51, 0xB6C3),
     (0x8D61, 0x8D72, 0xB6DE), (0x8D89, 0x8DAA, 0xB706), (0x8DCC, 0x8DD5, 0xB756),
     (0x8E67, 0x8E7A, 0xB7CA), (0x8E81, 0x8E8E, 0xB7DE), (0x8ECB, 0x8ED6, 0xB845),
     (0x8F49, 0x8F5A, 0xB88E), (0x8FB5, 0x8FC7, 0xB905), (0x8FCF, 0x8FE9, 0xB921),
     (0x906B, 0x907A, 0xB98F), (0x9081, 0x908D, 0xB99F), (0x90C7, 0x90D2, 0xBA09),
     (0x90D3, 0x90F4, 0xBA16), (0x9166, 0x916F, 0xBA79), (0x9181, 0x9195, 0xBA93),
     (0x91AB, 0x91B9, 0xBAC9), (0x91BA, 0x91DB, 0xBADA), (0x9281, 0x9296, 0xBB72),
     (0x929D, 0x92AF, 0xBB91), (0x92D6, 0x92F9, 0xBBD4), (0x9384, 0x93A9, 0xBC5E),
     (0x93E3, 0x93F9, 0xBCDD), (0x946E, 0x947A, 0xBD2D), (0x949A, 0x94A3, 0xBD5A),
     (0x94A7, 0x94BD, 0xBD69), (0x94D4, 0x94DE, 0xBDA5), (0x94E6, 0x94FE, 0xBDB9),
     (0x9548, 0x9553, 0xBDDD), (0x9589, 0x95AC, 0xBE20), (0x95E2, 0x95EF, 0xBE9A),
     (0x95F0, 0x95FE, 0xBEA9), (0x9641, 0x9658, 0xBEB8), (0x9681, 0x968B, 0xBEF6),
     (0x9692, 0x969F, 0xBF0A), (0x96A1, 0x96C2, 0xBF1E), (0x96D2, 0x96FE, 0xBF56),
     (0x9741, 0x9751, 0xBF83), (0x9761, 0x9772, 0xBF9E), (0x9781, 0x978C, 0xBFB9),
     (0x97A2, 0x97FB, 0xBFE2), (0x9841, 0x9851, 0xC040), (0x986B, 0x987A, 0xC06A),
     (0x9881, 0x9896, 0xC07A), (0x99A6, 0x99B1, 0xC1B1), (0x9A4A, 0x9A5A, 0xC235),
     (0x9ABD, 0x9ADE, 0xC2BA), (0x9B61, 0x9B72, 0xC333), (0x9B81, 0x9B9A, 0xC34E),
     (0x9BB4, 0x9BE6, 0xC38D), (0x9BE7, 0x9BFD, 0xC3C1), (0x9C71, 0x9C7A, 0xC411),
     (0x9C9E, 0x9CA7, 0xC43E), (0x9CA8, 0x9CC2, 0xC449), (0x9CD8, 0x9CEA, 0xC481),
     (0x9CF2, 0x9CFE, 0xC49D), (0x9D41, 0x9D4E, 0xC4AA), (0x9D61, 0x9D7A, 0xC4C6),
     (0x9D9A, 0x9DA3, 0xC502), (0x9DB1, 0x9DBB, 0xC51D), (0x9E50, 0x9E59, 0xC5AA),
     (0x9ECA, 0x9ED4, 0xC661), (0xA06D, 0xA07A, 0xC7ED), (0xA0C1, 0xA0DB, 0xC855),
     (0xA144, 0xA156, 0xC8A9), (0xA181, 0xA18F, 0xC8E6), (0xA248, 0xA25A, 0xC919),
     (0xA268, 0xA27A, 0xC935), (0xA34B, 0xA355, 0xC97D), (0xA36A, 0xA37A, 0xC99E),
     (0xA381, 0xA391, 0xC9AF), (0xA46E, 0xA47A, 0xCA19), (0xA484, 0xA4A0, 0xCA2A),
     (0xA561, 0xA572, 0xCA6B), (0xA581, 0xA591, 0xCA87), (0xA592, 0xA5A0, 0xCA99),
     (0xA641, 0xA654, 0xCAA8), (0xA68C, 0xA69E, 0xCAF5), (0xA761, 0xA777, 0xCB2A),
     (0xA841, 0xA84B, 0xCB6D), (0xA84C, 0xA85A, 0xCB7A), (0xA861, 0xA873, 0xCB89),
     (0xA881, 0xA894, 0xCBA4), (0xA895, 0xA8A0, 0xCBB9), (0xA941, 0xA94F, 0xCBC5),
     (0xA950, 0xA95A, 0xCBD5), (0xA968, 0xA97A, 0xCBEA), (0xA981, 0xA98F, 0xCBFD),
     (0xAA83, 0xAAA0, 0xCC76), (0xAB94, 0xABA0, 0xCCF1), (0xAC6A, 0xAC75, 0xCD2D),
     (0xAC81, 0xAC9D, 0xCD3F), (0xAD68, 0xAD72, 0xCD89), (0xAD8D, 0xAD9F, 0xCDB1),
     (0xAE4A, 0xAE5A, 0xCDD1), (0xAF47, 0xAF5A, 0xCE36), (0xAF61, 0xAF6E, 0xCE4A),
     (0xB04E, 0xB05A, 0xCEAE), (0xB067, 0xB07A, 0xCEC2), (0xB081, 0xB08E, 0xCED6),
     (0xB16F, 0xB17A, 0xCF39), (0xB181, 0xB18F, 0xCF45), (0xB261, 0xB273, 0xCF8E),
     (0xB287, 0xB299, 0xCFB1), (0xB341, 0xB354, 0xCFCC), (0xB38D, 0xB3A0, 0xD019),
     (0xB46E, 0xB478, 0xD061), (0xB48E, 0xB4A0, 0xD082), (0xB541, 0xB54F, 0xD095),
     (0xB595, 0xB5A0, 0xD0F9), (0xB649, 0xB65A, 0xD10E), (0xB661, 0xB670, 0xD120),
     (0xB741, 0xB74E, 0xD16E), (0xB761, 0xB775, 0xD18B), (0xB792, 0xB7A0, 0xD1C1),
     (0xB849, 0xB85A, 0xD1D9), (0xB86D, 0xB87A, 0xD1F9), (0xB888, 0xB8A0, 0xD211),
     (0xB961, 0xB96F, 0xD24D), (0xB981, 0xB997, 0xD269), (0xBA90, 0xBA99, 0xD2E6),
     (0xBB81, 0xBBA0, 0xD34A), (0xBC41, 0xBC52, 0xD36A), (0xBD6D, 0xBD7A, 0xD409),
     (0xBD87, 0xBDA0, 0xD41E), (0xBE4C, 0xBE5A, 0xD445), (0xBF41, 0xBF4B, 0xD49E),
     (0xBF4C, 0xBF5A, 0xD4AA), (0xBF61, 0xBF73, 0xD4B9), (0xC061, 0xC07A, 0xD51E),
     (0xC165, 0xC178, 0xD591), (0xC181, 0xC1A0, 0xD5A8), (0xC295, 0xC29E, 0xD62E),
     (0xC36F, 0xC37A, 0xD675), (0xC492, 0xC49D, 0xD705)]

end OpenerPolicy.Text
